import MailDispatch.Journal.Traced

/-!
# Computations on a state that leave a trace

An activity reads and changes a state, leaves a trace of events and may fail. The state it leaves
and the events that happened are there whether or not it fails, so that what must be done in any
case, such as closing a connection, can go on from there.
-/

namespace MailDispatch

/-- What an activity leaves behind. -/
structure Outcome (σ ω ε α : Type) where
  result : Except ε α
  state : σ
  events : List ω

/-- A computation on a state of type `σ` with events of type `ω` and failures of type `ε`. -/
def Activity (σ ω ε α : Type) : Type := σ → Outcome σ ω ε α

namespace Activity

variable {σ ω ε α β : Type}

/-- An activity that only yields a result. -/
def ofResult (r : Except ε α) : Activity σ ω ε α := fun s ↦ ⟨r, s, []⟩

/-- A failure. -/
def fail (e : ε) : Activity σ ω ε α := ofResult (.error e)

/-- First `x`, then what `f` makes of its result. -/
def chain (x : Activity σ ω ε α) (f : α → Activity σ ω ε β) : Activity σ ω ε β := fun s ↦
  match x s with
  | ⟨.ok a, s', events⟩ =>
    let y := f a s'
    ⟨y.result, y.state, events ++ y.events⟩
  | ⟨.error e, s', events⟩ => ⟨.error e, s', events⟩

instance : Monad (Activity σ ω ε) where
  pure a := ofResult (.ok a)
  bind := chain

instance : MonadLift (Except ε) (Activity σ ω ε) := ⟨ofResult⟩

/-- The state. -/
def get : Activity σ ω ε σ := fun s ↦ ⟨.ok s, s, []⟩

/-- Changes the state. -/
def modify (f : σ → σ) : Activity σ ω ε Unit := fun s ↦ ⟨.ok (), f s, []⟩

/-- An event. -/
def emit (e : ω) : Activity σ ω ε Unit := fun s ↦ ⟨.ok (), s, [e]⟩

/-- A traced computation, each of its events turned into what the state lets through. -/
def ofTraced {ν : Type} (keep : σ → ν → Option ω) (x : Traced ν ε α) : Activity σ ω ε α :=
  fun s ↦ ⟨x.result, s, x.events.filterMap (keep s)⟩

/-- `x`, and if it fails, what `handler` makes of its failure. -/
def rescue (x : Activity σ ω ε α) (handler : ε → Activity σ ω ε α) : Activity σ ω ε α := fun s ↦
  match x s with
  | ⟨.ok a, s', events⟩ => ⟨.ok a, s', events⟩
  | ⟨.error e, s', events⟩ =>
    let y := handler e s'
    ⟨y.result, y.state, events ++ y.events⟩

/-- `x`, and after it `last` in any case. A failure of `last` replaces the result of `x`. -/
def ensuring (x : Activity σ ω ε α) (last : Activity σ ω ε Unit) : Activity σ ω ε α := fun s ↦
  let o := x s
  let y := last o.state
  match y.result with
  | .ok _ => ⟨o.result, y.state, o.events ++ y.events⟩
  | .error e => ⟨.error e, y.state, o.events ++ y.events⟩

/-! ## Equations -/

theorem bind_apply (x : Activity σ ω ε α) (f : α → Activity σ ω ε β) (s : σ) :
    (x >>= f) s = x.chain f s := rfl

@[simp] theorem pure_apply (a : α) (s : σ) :
    (pure a : Activity σ ω ε α) s = ⟨.ok a, s, []⟩ := rfl

theorem chain_of_ok {x : Activity σ ω ε α} {s s' : σ} {a : α} {events : List ω}
    (h : x s = ⟨.ok a, s', events⟩) (f : α → Activity σ ω ε β) :
    x.chain f s = ⟨(f a s').result, (f a s').state, events ++ (f a s').events⟩ := by
  rw [chain, h]

theorem chain_of_error {x : Activity σ ω ε α} {s s' : σ} {e : ε} {events : List ω}
    (h : x s = ⟨.error e, s', events⟩) (f : α → Activity σ ω ε β) :
    x.chain f s = ⟨.error e, s', events⟩ := by
  rw [chain, h]

instance : LawfulMonad (Activity σ ω ε) := LawfulMonad.mk'
  _
  (fun x ↦ funext fun s ↦ by
    show x.chain (fun a ↦ ofResult (.ok a)) s = x s
    match h : x s with
    | ⟨.ok a, s', events⟩ => rw [chain_of_ok h]; simp [ofResult]
    | ⟨.error e, s', events⟩ => rw [chain_of_error h])
  (fun a f ↦ funext fun s ↦ by
    show chain (ofResult (.ok a)) f s = f a s
    simp [chain, ofResult])
  (fun x f g ↦ funext fun s ↦ by
    show (x.chain f).chain g s = x.chain (fun a ↦ (f a).chain g) s
    match h : x s with
    | ⟨.error e, s', events⟩ => rw [chain_of_error h, chain_of_error (chain_of_error h f)]
    | ⟨.ok a, s', events⟩ =>
      have h₁ := chain_of_ok h f
      rw [chain_of_ok h]
      match h' : f a s' with
      | ⟨.error e, s'', events'⟩ =>
        rw [h'] at h₁
        rw [chain_of_error h₁, chain_of_error h']
      | ⟨.ok b, s'', events'⟩ =>
        rw [h'] at h₁
        rw [chain_of_ok h₁, chain_of_ok h', List.append_assoc])

end Activity

end MailDispatch
