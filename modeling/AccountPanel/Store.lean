import AccountPanel.Key

/-!
# The key store

An ordered list of keys. A key is added at the end unless its name is in use; deleting removes the
first record equal to the given one. Both operations say whether they changed the list.
-/

namespace AccountPanel

/-- The stored keys, the oldest first. -/
structure Store where
  keys : List Key := []
  deriving Repr, DecidableEq

namespace Store

/-- Is there a key with this name? -/
def hasName (store : Store) (name : String) : Bool :=
  store.keys.any (·.name == name)

/-- Add a key at the end unless its name is in use. -/
def add (store : Store) (key : Key) : Bool × Store :=
  if store.hasName key.name then (false, store) else (true, ⟨store.keys ++ [key]⟩)

/-- Remove the first record equal to `key`. -/
def delete (store : Store) (key : Key) : Bool × Store :=
  if store.keys.contains key then (true, ⟨store.keys.erase key⟩) else (false, store)

/-- A request to change the store. -/
inductive Change where
  | add (key : Key)
  | delete (key : Key)
  deriving Repr, DecidableEq

/-- Carry out one change and say whether it took effect. -/
def apply (store : Store) : Change → Bool × Store
  | .add key => store.add key
  | .delete key => store.delete key

/-- Carry out changes in order. The answers come in the order of the changes. -/
def run (store : Store) : List Change → List Bool × Store
  | [] => ([], store)
  | change :: changes =>
    let (accepted, next) := store.apply change
    let (answers, last) := next.run changes
    (accepted :: answers, last)

end Store

end AccountPanel
