import BeanContainer.Lifecycle.Poll
/-!
# Runs

A run is any sequence of the things that can happen in a world, in any order and for any number of
builders. Polls of different starts may be interleaved, and loaders may be closed, classes
registered and identifiers reserved between them.
-/

namespace BeanContainer

/-- One thing that happens in a world. Builders, environments, registries and leases are referred to
by number, and a container by the number of its builder. -/
inductive Step where
  | openLoader (name : String)
  | closeLoader (loader : Loader)
  | addEnvironment (environment : Environment)
  | registerClass (environment : Nat) (entry : IndexedClass)
  | newExtension (name : String)
  | makeBean (definition : BeanDefinition)
  | produce (bean : Bean)
  | addRegistry
  | reserve (registry : Nat) (id : String)
  | dropLease (lease : Nat)
  | newBuilder
  | call (builder : Nat) (call : Call)
  | poll (builder : Nat) (params : Properties)
  | abandon (builder : Nat)
  | fire (builder : Nat) (name : String) (payload : Json)
  | shutdown (builder : Nat)

inductive StepResult where
  | done
  | loader (loader : Loader)
  | extension (extension : Extension)
  | bean (bean : Bean)
  | produced (outcome : Option (Except String Json))
  | number (n : Nat)
  | lease (n : Option Nat)
  | called (outcome : Except BootstrapError Unit)
  | polled (result : PollResult)

namespace World

/-- A step and the way to show what it yields. -/
def yielding {α : Type} (result : α → StepResult) (r : World × α) : World × StepResult :=
  (r.1, result r.2)

def step (w : World) : Step → World × StepResult
  | .openLoader name => yielding .loader (w.openLoader name)
  | .closeLoader l => (w.closeLoader l, .done)
  | .addEnvironment e => yielding .number (w.addEnvironment e)
  | .registerClass environment entry => (w.registerClass environment entry, .done)
  | .newExtension name => yielding .extension (w.newExtension name)
  | .makeBean d => yielding .bean (w.makeBean d)
  | .produce b => yielding .produced (w.produce b)
  | .addRegistry => yielding .number w.addRegistry
  | .reserve r id => yielding .lease (w.reserve r id)
  | .dropLease l => (w.dropLease l, .done)
  | .newBuilder => yielding .number w.newBuilder
  | .call b c => yielding .called (w.call b c)
  | .poll b params => yielding .polled (w.poll b params)
  | .abandon b => (w.abandon b, .done)
  | .fire b name payload => (w.fire b name payload, .done)
  | .shutdown b => (w.shutdown b, .done)

/-- Let things happen one after the other; yields what each of them yields. -/
def run (w : World) : List Step → World × List StepResult
  | [] => (w, [])
  | s :: ss =>
    let (w, r) := w.step s
    let (w, rs) := w.run ss
    (w, r :: rs)

@[simp] theorem run_nil (w : World) : w.run [] = (w, []) := rfl

@[simp] theorem run_cons (w : World) (s : Step) (ss : List Step) :
    w.run (s :: ss) = (((w.step s).1.run ss).1, (w.step s).2 :: ((w.step s).1.run ss).2) := rfl

theorem run_append (w : World) (ss ts : List Step) :
    w.run (ss ++ ts) = (((w.run ss).1.run ts).1, (w.run ss).2 ++ ((w.run ss).1.run ts).2) := by
  induction ss generalizing w with
  | nil => rfl
  | cons s ss ih => simp [ih]

/-! ### History -/

/-- What extensions have been told on behalf of a builder and its container, in order. -/
def eventsOf (w : World) (b : Nat) : List (Extension × Event) :=
  w.history.filterMap fun
    | .observed b' x e _ => if b' = b then some (x, e) else none
    | .asked .. => none

end World

end BeanContainer
