-- Configuration stores and the handles on them. A clone of a handle leads to the same
-- store, so what is written through one of them is seen through the other.
import MarkerInjection.Config.Store

namespace MarkerInjection

/-! ## The shared store -/

/-- Stores at their addresses, and the handles on them. Both are numbered from zero, and a handle
is the address of its store. -/
structure SharedStore where
  stores : List ConfigStore
  handles : List Nat
  deriving Repr, DecidableEq, Inhabited

/-- A store with its first handle. -/
def SharedStore.ofStore (store : ConfigStore) : SharedStore := ⟨[store], [0]⟩

/-! ## Steps -/

/-- What is done through a handle. -/
inductive StoreStep
  | get (key : String)
  | set (key value : String)
  /-- One more handle on the same store. -/
  | clone
  | config
  deriving Repr, DecidableEq, Inhabited

/-- What comes of a step. -/
inductive StoreAnswer
  | value (found : Option String)
  | handle (number : Nat)
  | config (result : Except Failure Config)

/-- Takes a step through a handle, if there is such a handle. A write answers with what is
then read. -/
def SharedStore.step (s : SharedStore) (handle : Nat) (step : StoreStep) :
    Option (SharedStore × StoreAnswer) := do
  let address ← s.handles[handle]?
  let store ← s.stores[address]?
  match step with
  | .get key => return (s, .value (store.get? key))
  | .set key value =>
    let store := store.set key value
    return ({ s with stores := s.stores.set address store }, .value (store.get? key))
  | .clone => return ({ s with handles := s.handles ++ [address] }, .handle s.handles.length)
  | .config => return (s, .config (Config.ofStore store))

end MarkerInjection
