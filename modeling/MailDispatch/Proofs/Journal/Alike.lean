import MailDispatch.Proofs.Journal.Contract

/-!
# Computations that are alike

Two runs of one program on inputs that differ in one place are compared step by step. Two
computations are alike if they fail in the same way or yield values in a given relation, and leave
the same trace; for activities the trace is compared through a `mask`, which says how much of an
event is looked at. There is one rule for each way of building computations, so that only the steps
that meet the difference need to be looked at; all others are the same on both sides.
-/

namespace MailDispatch

variable {σ ω ω' ε ν α β : Type}

/-- Two results that are the same failure or values in a relation. -/
inductive ResultsAlike (R : α → α → Prop) : Except ε α → Except ε α → Prop
  | ok {a b : α} (h : R a b) : ResultsAlike R (.ok a) (.ok b)
  | error (e : ε) : ResultsAlike R (.error e) (.error e)

namespace ResultsAlike

variable {R : α → α → Prop} {r r' : Except ε α}

theorem refl (h : ∀ a, R a a) (r : Except ε α) : ResultsAlike R r r := by
  cases r with
  | ok a => exact .ok (h a)
  | error e => exact .error e

theorem eq (h : ResultsAlike Eq r r') : r = r' := by
  cases h with
  | ok h => rw [h]
  | error e => rfl

end ResultsAlike

/-! ## Traced computations -/

namespace Traced

/-- Two traced computations with the same trace and with results that are alike. -/
structure Alike (R : α → α → Prop) (x y : Traced ω ε α) : Prop where
  events : x.events = y.events
  result : ResultsAlike R x.result y.result

namespace Alike

variable {R : α → α → Prop} {R' : β → β → Prop} {x y : Traced ω ε α}

theorem refl (h : ∀ a, R a a) (x : Traced ω ε α) : Alike R x x := ⟨rfl, .refl h x.result⟩

theorem pure {a b : α} (h : R a b) : Alike R (pure a : Traced ω ε α) (pure b) := ⟨rfl, .ok h⟩

theorem ofResult {r r' : Except ε α} (h : ResultsAlike R r r') :
    Alike R (liftM r : Traced ω ε α) (liftM r') := ⟨rfl, h⟩

theorem bind {f g : α → Traced ω ε β} (h : Alike R x y)
    (hf : ∀ a b, R a b → Alike R' (f a) (g b)) : Alike R' (x >>= f) (y >>= g) := by
  obtain ⟨he, hr⟩ := h
  rw [bind_def, bind_def]
  generalize hx : x.result = r at hr
  generalize hy : y.result = r' at hr
  cases hr with
  | ok hab =>
    rw [chain_of_ok hx, chain_of_ok hy, he]
    exact ⟨congrArg (y.events ++ ·) (hf _ _ hab).events, (hf _ _ hab).result⟩
  | error e =>
    rw [chain_of_error hx, chain_of_error hy, he]
    exact ⟨rfl, .error e⟩

/-- Where the first step is the same, only what follows has to be looked at. -/
theorem bind_same (x : Traced ω ε α) {f g : α → Traced ω ε β}
    (hf : ∀ a, x.result = .ok a → Alike R' (f a) (g a)) : Alike R' (x >>= f) (x >>= g) := by
  rw [bind_def, bind_def]
  cases hx : x.result with
  | ok a =>
    rw [chain_of_ok hx, chain_of_ok hx]
    exact ⟨congrArg (x.events ++ ·) (hf a hx).events, (hf a hx).result⟩
  | error e =>
    rw [chain_of_error hx, chain_of_error hx]
    exact ⟨rfl, .error e⟩

/-- What is known of the values may enter their relation. -/
theorem strengthen {R'' : α → α → Prop} (h : Alike R x y)
    (hR : ∀ a b, x.result = .ok a → y.result = .ok b → R a b → R'' a b) : Alike R'' x y := by
  obtain ⟨he, hr⟩ := h
  refine ⟨he, ?_⟩
  generalize hx : x.result = r at hr
  generalize hy : y.result = r' at hr
  cases hr with
  | ok hab => exact .ok (hR _ _ hx hy hab)
  | error e => exact .error e

end Alike

end Traced

/-! ## Activities -/

/-- Two outcomes with results that are alike, in the same state, and with events of which the mask
shows the same. -/
structure Outcome.Alike (mask : ω → ω') (R : α → α → Prop) (o o' : Outcome σ ω ε α) : Prop where
  result : ResultsAlike R o.result o'.result
  state : o.state = o'.state
  events : o.events.map mask = o'.events.map mask

/-- Where nothing is masked and the results are equal, the outcomes are. -/
theorem Outcome.Alike.eq {o o' : Outcome σ ω ε α} (h : o.Alike id Eq o') : o = o' := by
  obtain ⟨r, s, events⟩ := o
  obtain ⟨r', s', events'⟩ := o'
  obtain ⟨hresult, hstate, hevents⟩ := h
  rw [List.map_id, List.map_id] at hevents
  obtain rfl : r = r' := hresult.eq
  obtain rfl : s = s' := hstate
  obtain rfl : events = events' := hevents
  rfl

namespace Activity

/-- Two activities whose outcomes are alike, in whatever state they start together. -/
def Alike (mask : ω → ω') (R : α → α → Prop) (x y : Activity σ ω ε α) : Prop :=
  ∀ s, (x s).Alike mask R (y s)

namespace Alike

variable {mask : ω → ω'} {R : α → α → Prop} {R' : β → β → Prop} {x y : Activity σ ω ε α}

theorem refl (h : ∀ a, R a a) (x : Activity σ ω ε α) : Alike mask R x x :=
  fun s ↦ ⟨.refl h (x s).result, rfl, rfl⟩

theorem pure {a b : α} (h : R a b) : Alike mask R (pure a : Activity σ ω ε α) (pure b) :=
  fun _ ↦ ⟨.ok h, rfl, rfl⟩

theorem emit {e e' : ω} (h : mask e = mask e') :
    Alike (σ := σ) (ε := ε) mask Eq (emit e) (emit e') :=
  fun _ ↦ ⟨.ok rfl, rfl, congrArg (fun m ↦ [m]) h⟩

theorem ofTraced {keep : σ → ν → Option ω} {x y : Traced ν ε α} (h : x.Alike R y) :
    Alike mask R (Activity.ofTraced keep x) (Activity.ofTraced keep y) :=
  fun s ↦ ⟨h.result, rfl, congrArg (fun events ↦ (events.filterMap (keep s)).map mask) h.events⟩

theorem bind {f g : α → Activity σ ω ε β} (h : Alike mask R x y)
    (hf : ∀ a b, R a b → Alike mask R' (f a) (g b)) : Alike mask R' (x >>= f) (y >>= g) := by
  intro s
  obtain ⟨hr, hs, he⟩ := h s
  rw [bind_apply, bind_apply]
  rcases hx : x s with ⟨r, s₁, events⟩
  rcases hy : y s with ⟨r', s₂, events'⟩
  rw [hx, hy] at hr hs he
  cases hr with
  | ok hab =>
    -- what follows starts on both sides where the first step ended
    obtain ⟨hr', hs', he'⟩ := hf _ _ hab s₁
    rw [chain_of_ok hx, chain_of_ok hy, ← show s₁ = s₂ from hs]
    refine ⟨hr', hs', ?_⟩
    rw [List.map_append, List.map_append, he', show events.map mask = events'.map mask from he]
  | error e =>
    rw [chain_of_error hx, chain_of_error hy]
    exact ⟨.error e, hs, he⟩

/-- Where the first step is the same, only what follows has to be looked at. -/
theorem bind_same (x : Activity σ ω ε α) {f g : α → Activity σ ω ε β}
    (hf : ∀ a, Alike mask R' (f a) (g a)) : Alike mask R' (x >>= f) (x >>= g) :=
  (refl (fun _ ↦ rfl) x).bind fun a b hab ↦ by rw [← show a = b from hab]; exact hf a

/-- The same handler does the same on both sides, as it is asked for the same failures. -/
theorem rescue (hR : ∀ a, R a a) (h : Alike mask R x y) (handler : ε → Activity σ ω ε α) :
    Alike mask R (x.rescue handler) (y.rescue handler) := by
  intro s
  obtain ⟨hr, hs, he⟩ := h s
  rw [Activity.rescue, Activity.rescue]
  rcases hx : x s with ⟨r, s₁, events⟩
  rcases hy : y s with ⟨r', s₂, events'⟩
  rw [hx, hy] at hr hs he
  cases hr with
  | ok hab => exact ⟨.ok hab, hs, he⟩
  | error e =>
    obtain rfl : s₁ = s₂ := hs
    refine ⟨.refl hR _, rfl, ?_⟩
    rw [List.map_append, List.map_append, show events.map mask = events'.map mask from he]

theorem ensuring (h : Alike mask R x y) (last : Activity σ ω ε Unit) :
    Alike mask R (x.ensuring last) (y.ensuring last) := by
  intro s
  obtain ⟨hr, hs, he⟩ := h s
  rw [Activity.ensuring, Activity.ensuring, ← hs]
  have hevents : ((x s).events ++ (last (x s).state).events).map mask
      = ((y s).events ++ (last (x s).state).events).map mask := by
    rw [List.map_append, List.map_append, he]
  cases (last (x s).state).result with
  | ok _ => exact ⟨hr, rfl, hevents⟩
  | error e => exact ⟨.error e, rfl, hevents⟩

end Alike

end Activity

end MailDispatch
