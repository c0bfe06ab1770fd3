/-!
# Runs

An operation on the outside world is a run: from a state it leads to a result or an error, and to a
new state. The new state is there in either case, because what was done before an error stays done.
Runs are put together by `do`; a run behind one that fails is not started. The lemmas say what each
way of building a run does to a state.
-/

namespace AlertContacts

/-- A computation over a state `τ` that ends with an `α` or with an error `ε`. -/
structure Run (τ ε α : Type) where
  run : τ → Except ε α × τ

namespace Run

variable {τ ε ε' α β : Type}

instance : Monad (Run τ ε) where
  pure result := ⟨fun state => (.ok result, state)⟩
  bind first next := ⟨fun state =>
    match first.run state with
    | (.ok result, state) => (next result).run state
    | (.error error, state) => (.error error, state)⟩

def fail (error : ε) : Run τ ε α :=
  ⟨fun state => (.error error, state)⟩

def ofExcept (outcome : Except ε α) : Run τ ε α :=
  ⟨fun state => (outcome, state)⟩

instance : MonadLift (Except ε) (Run τ ε) := ⟨ofExcept⟩

def modify (change : τ → τ) : Run τ ε Unit :=
  ⟨fun state => (.ok (), change state)⟩

/-- A run with another one in place of its failure; what was done before the failure stays done. -/
def recover (first : Run τ ε α) (handle : ε → Run τ ε' α) : Run τ ε' α :=
  ⟨fun state =>
    match first.run state with
    | (.ok result, state) => (.ok result, state)
    | (.error error, state) => (handle error).run state⟩

@[simp]
theorem run_pure (result : α) (state : τ) :
    (pure result : Run τ ε α).run state = (.ok result, state) := rfl

@[simp]
theorem run_bind (first : Run τ ε α) (next : α → Run τ ε β) (state : τ) :
    (first >>= next).run state =
      match first.run state with
      | (.ok result, state) => (next result).run state
      | (.error error, state) => (.error error, state) := rfl

@[simp]
theorem run_map (function : α → β) (first : Run τ ε α) (state : τ) :
    (function <$> first).run state =
      match first.run state with
      | (.ok result, state) => (.ok (function result), state)
      | (.error error, state) => (.error error, state) := rfl

@[simp]
theorem run_fail (error : ε) (state : τ) :
    (fail error : Run τ ε α).run state = (.error error, state) := rfl

@[simp]
theorem run_ofExcept (outcome : Except ε α) (state : τ) :
    (ofExcept outcome : Run τ ε α).run state = (outcome, state) := rfl

@[simp]
theorem run_liftM (outcome : Except ε α) (state : τ) :
    (liftM outcome : Run τ ε α).run state = (outcome, state) := rfl

@[simp]
theorem run_modify (change : τ → τ) (state : τ) :
    (modify change : Run τ ε Unit).run state = (.ok (), change state) := rfl

@[simp]
theorem run_recover (first : Run τ ε α) (handle : ε → Run τ ε' α) (state : τ) :
    (first.recover handle).run state =
      match first.run state with
      | (.ok result, state) => (.ok result, state)
      | (.error error, state) => (handle error).run state := rfl

end Run

end AlertContacts
