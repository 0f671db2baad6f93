/-!
# Computations that leave a trace

A traced computation yields the events that happened, oldest first, and either a result or a
failure. What happened before a failure stays in the trace. Chaining two computations appends
their traces, which is what the equations at the end say.
-/

namespace MailDispatch

/-- The events that happened and what came out. -/
structure Traced (ω ε α : Type) where
  events : List ω
  result : Except ε α

namespace Traced

variable {ω ε α β : Type}

/-- A result without any event. -/
def ofResult (r : Except ε α) : Traced ω ε α := ⟨[], r⟩

/-- An event. -/
def emit (e : ω) : Traced ω ε Unit := ⟨[e], .ok ()⟩

/-- A failure. -/
def fail (e : ε) : Traced ω ε α := ⟨[], .error e⟩

/-- First `x`, then what `f` makes of its result. -/
def chain (x : Traced ω ε α) (f : α → Traced ω ε β) : Traced ω ε β :=
  match x.result with
  | .ok a => ⟨x.events ++ (f a).events, (f a).result⟩
  | .error e => ⟨x.events, .error e⟩

instance : Monad (Traced ω ε) where
  pure a := ⟨[], .ok a⟩
  bind := chain

instance : MonadLift (Except ε) (Traced ω ε) := ⟨ofResult⟩

/-- `x`, with its failure replaced. -/
def mapError {ε' : Type} (f : ε → ε') (x : Traced ω ε α) : Traced ω ε' α :=
  ⟨x.events, match x.result with
    | .ok a => .ok a
    | .error e => .error (f e)⟩

/-! ## Equations -/

@[ext] theorem ext {x y : Traced ω ε α} (he : x.events = y.events) (hr : x.result = y.result) :
    x = y := by
  cases x; cases y; simp_all

theorem bind_def (x : Traced ω ε α) (f : α → Traced ω ε β) : x >>= f = x.chain f := rfl

@[simp] theorem events_pure (a : α) : (pure a : Traced ω ε α).events = [] := rfl

@[simp] theorem result_pure (a : α) : (pure a : Traced ω ε α).result = .ok a := rfl

theorem chain_of_ok {x : Traced ω ε α} {a : α} (h : x.result = .ok a) (f : α → Traced ω ε β) :
    x.chain f = ⟨x.events ++ (f a).events, (f a).result⟩ := by
  rw [chain, h]

theorem chain_of_error {x : Traced ω ε α} {e : ε} (h : x.result = .error e)
    (f : α → Traced ω ε β) : x.chain f = ⟨x.events, .error e⟩ := by
  rw [chain, h]

instance : LawfulMonad (Traced ω ε) := LawfulMonad.mk'
  _
  (fun x ↦ by
    show x.chain (fun a ↦ ⟨[], .ok a⟩) = x
    cases h : x.result with
    | ok a => rw [chain_of_ok h]; ext <;> simp [h]
    | error e => rw [chain_of_error h]; ext <;> simp [h])
  (fun a f ↦ by
    show chain ⟨[], .ok a⟩ f = f a
    simp [chain])
  (fun x f g ↦ by
    show (x.chain f).chain g = x.chain fun a ↦ (f a).chain g
    cases h : x.result with
    | error e => rw [chain_of_error h, chain_of_error h, chain]
    | ok a =>
      rw [chain_of_ok h, chain_of_ok h]
      cases h' : (f a).result with
      | error e => simp [chain, h']
      | ok b => simp [chain, h', List.append_assoc])

end Traced

end MailDispatch
