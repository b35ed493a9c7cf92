/-
This file introduces the actions that a run is made of. An action changes the world,
which is the files that everybody sees and a memory that only the collaborators of
the run see, gives a result, and leaves a log of what was done, in order. Actions
are put one after another; the log of the whole is the logs of the parts.
-/

import Golden.Run.Outcome

namespace Golden.Run

open Golden

/-- All that an action can depend on and change. -/
structure World (σ : Type) where
  files : Files
  memory : σ

/-- One thing that a run does. -/
inductive Call
  | build
  /-- The output of the pair before is removed. -/
  | clear (output : Path)
  | run (input output : Path)
  | compare (actual expected : Path)
  | report (event : Event)
deriving DecidableEq, Repr

/-- What an action comes to. -/
structure Step (σ α : Type) where
  result : α
  log : List Call
  world : World σ

/-- Something that can be done in a world. -/
def Action (σ α : Type) := World σ → Step σ α

namespace Action

variable {σ α β : Type}

/-- Doing nothing, with a result. -/
def done (result : α) : Action σ α :=
  fun world => ⟨result, [], world⟩

/-- One action, and then the one that its result leads to. -/
def andThen (action : Action σ α) (next : α → Action σ β) : Action σ β :=
  fun world =>
    let first := action world
    let second := next first.result first.world
    ⟨second.result, first.log ++ second.log, second.world⟩

instance : Monad (Action σ) where
  pure := done
  bind := andThen

instance : LawfulMonad (Action σ) :=
  LawfulMonad.mk' (Action σ) (fun _ => by
      funext world
      simp [Functor.map, andThen, done])
    (fun _ _ => by
      funext world
      simp [bind, pure, andThen, done])
    (fun _ _ _ => by
      funext world
      simp [bind, andThen])

@[simp] theorem pure_apply (result : α) (world : World σ) :
    (pure result : Action σ α) world = ⟨result, [], world⟩ := rfl

@[simp] theorem bind_apply (action : Action σ α) (next : α → Action σ β) (world : World σ) :
    (action >>= next) world =
      ⟨(next (action world).result (action world).world).result,
        (action world).log ++ (next (action world).result (action world).world).log,
        (next (action world).result (action world).world).world⟩ := rfl

/-- Reports an event. -/
def report (event : Event) : Action σ Unit :=
  fun world => ⟨(), [.report event], world⟩

@[simp] theorem report_apply (event : Event) (world : World σ) :
    report event world = ⟨(), [.report event], world⟩ := rfl

/-- Changes the world, and logs this as one call. -/
def perform (call : Call) (change : World σ → α × World σ) : Action σ α :=
  fun world =>
    let (result, world) := change world
    ⟨result, [call], world⟩

/-- Looks at the files. -/
def files : Action σ Files :=
  fun world => ⟨world.files, [], world⟩

@[simp] theorem files_apply (world : World σ) : files world = ⟨world.files, [], world⟩ := rfl

end Action

end Golden.Run
