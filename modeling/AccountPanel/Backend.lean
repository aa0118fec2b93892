import AccountPanel.Store

/-!
# Backends

A backend is where a page gets its keys and hands its changes to. It answers in a state of its own,
so that a list of keys in memory, a fixed sequence of answers and any other source are used alike.
-/

namespace AccountPanel

/-- A source of keys that keeps a state of type `σ`. A change reports whether it took effect. -/
structure Backend (σ : Type) where
  list : StateM σ (Option (List Key))
  change : Store.Change → StateM σ Bool

namespace Backend

variable {σ : Type}

/-- Ask to add a key. -/
def add (backend : Backend σ) (key : Key) : StateM σ Bool := backend.change (.add key)

/-- Ask to delete a key. -/
def delete (backend : Backend σ) (key : Key) : StateM σ Bool := backend.change (.delete key)

/-- The backend that keeps its keys in a store. -/
def inMemory : Backend Store where
  list := fun store => (some store.keys, store)
  change := fun change store => store.apply change

/-- Prepared answers. An answer to a change that is not prepared is a refusal. -/
structure Script where
  keys : Option (List Key) := none
  addAnswers : List Bool := []
  deleteAnswers : List Bool := []
  deriving Repr

/-- The backend that gives prepared answers in turn and never changes its keys. -/
def scripted : Backend Script where
  list := fun script => (script.keys, script)
  change := fun change script =>
    match change with
    | .add _ =>
      (script.addAnswers.headD false, { script with addAnswers := script.addAnswers.tail })
    | .delete _ =>
      (script.deleteAnswers.headD false,
        { script with deleteAnswers := script.deleteAnswers.tail })

/-- The same backend, with a record of the changes asked for, the oldest first. -/
def recorded (backend : Backend σ) : Backend (σ × List Store.Change) where
  list := fun (state, calls) =>
    let (keys, state) := backend.list state
    (keys, state, calls)
  change := fun change (state, calls) =>
    let (accepted, state) := backend.change change state
    (accepted, state, calls ++ [change])

end Backend

end AccountPanel
