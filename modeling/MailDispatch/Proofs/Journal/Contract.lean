import Mathlib
import MailDispatch.Journal.Activity

/-!
# Contracts of computations

A property of a long computation follows from the properties of its steps. This file says once how
the two kinds of computation chain, so that later modules need to look at the steps only.

A `Contract` names what an activity keeps: a property of the state that every step preserves, one
that every event has, and one that every failure has. `Activity.Meets` adds what holds of the value
if there is one. There is one rule for each way of building activities, and a rule for a composed
activity asks for nothing but the contracts of its parts.
-/

namespace MailDispatch

/-! ## Results -/

/-- A value with `post`, or a failure with `fails`. -/
def EndsIn {ε α : Type} (post : α → Prop) (fails : ε → Prop) : Except ε α → Prop
  | .ok a => post a
  | .error e => fails e

namespace EndsIn

variable {ε ε' α β : Type} {post : α → Prop} {fails : ε → Prop}

theorem weaken {post' : α → Prop} {fails' : ε → Prop} {r : Except ε α}
    (h : EndsIn post fails r) (hp : ∀ a, post a → post' a) (hf : ∀ e, fails e → fails' e) :
    EndsIn post' fails' r := by
  cases r with
  | ok a => exact hp a h
  | error e => exact hf e h

theorem bind {post' : β → Prop} {r : Except ε α} {f : α → Except ε β}
    (h : EndsIn post fails r) (hf : ∀ a, post a → EndsIn post' fails (f a)) :
    EndsIn post' fails (r.bind f) := by
  cases r with
  | ok a => exact hf a h
  | error e => exact h

theorem map {post' : β → Prop} {r : Except ε α} {f : α → β} (h : EndsIn post fails r)
    (hf : ∀ a, post a → post' (f a)) : EndsIn post' fails (r.map f) := by
  cases r with
  | ok a => exact hf a h
  | error e => exact h

theorem mapError {fails' : ε' → Prop} {r : Except ε α} {f : ε → ε'} (h : EndsIn post fails r)
    (hf : ∀ e, fails e → fails' (f e)) : EndsIn post fails' (r.mapError f) := by
  cases r with
  | ok a => exact h
  | error e => exact hf e h

/-- Items are taken one after the other, so each value of the list comes from an item. -/
theorem mapM {f : α → Except ε β} {post' : β → Prop} {items : List α}
    (h : ∀ a ∈ items, EndsIn post' fails (f a)) :
    EndsIn (fun bs ↦ ∀ b ∈ bs, post' b) fails (items.mapM f) := by
  induction items with
  | nil => simp [EndsIn, pure, Except.pure]
  | cons a rest ih =>
    rw [List.mapM_cons]
    refine (h a List.mem_cons_self).bind fun b hb ↦ ?_
    refine bind (ih fun x hx ↦ h x (List.mem_cons_of_mem a hx)) fun bs hbs ↦ ?_
    intro x hx
    rcases List.mem_cons.mp hx with rfl | hx'
    · exact hb
    · exact hbs x hx'

/-- Where failures do not matter, only the value has to be looked at. -/
theorem of_forall_ok {r : Except ε α} (h : ∀ a, r = .ok a → post a) :
    EndsIn post (fun _ ↦ True) r := by
  cases r with
  | ok a => exact h a rfl
  | error e => trivial

/-- Every result ends in one way or the other. -/
theorem any (r : Except ε α) : EndsIn (fun _ ↦ True) (fun _ ↦ True) r :=
  of_forall_ok fun _ _ ↦ trivial

theorem of_ok {r : Except ε α} {a : α} (h : EndsIn post fails r) (hr : r = .ok a) : post a := by
  rw [hr] at h; exact h

theorem of_error {r : Except ε α} {e : ε} (h : EndsIn post fails r) (hr : r = .error e) :
    fails e := by
  rw [hr] at h; exact h

end EndsIn

section Results

variable {ε ε' α β : Type} {r : Except ε α}

theorem exists_of_isOk (h : r.isOk) : ∃ a, r = .ok a := by
  cases r with
  | ok a => exact ⟨a, rfl⟩
  | error e => cases h

theorem map_eq_ok_iff {f : α → β} {b : β} : r.map f = .ok b ↔ ∃ a, r = .ok a ∧ b = f a := by
  cases r with
  | ok a =>
    constructor
    · intro h
      exact ⟨a, rfl, (Except.ok.inj h).symm⟩
    · rintro ⟨a', h, rfl⟩
      rw [Except.ok.inj h]
      rfl
  | error e => exact iff_of_false nofun fun ⟨_, h, _⟩ ↦ nomatch h

theorem map_eq_error_iff {f : α → β} {e : ε} : r.map f = .error e ↔ r = .error e := by
  cases r with
  | ok a => exact iff_of_false nofun nofun
  | error e' => rw [Except.map, Except.error.injEq, Except.error.injEq]

theorem mapError_eq_ok_iff {f : ε → ε'} {a : α} : r.mapError f = .ok a ↔ r = .ok a := by
  cases r with
  | ok a' => rw [Except.mapError, Except.ok.injEq, Except.ok.injEq]
  | error e => exact iff_of_false nofun nofun

theorem mapError_eq_error_iff {f : ε → ε'} {e' : ε'} :
    r.mapError f = .error e' ↔ ∃ e, r = .error e ∧ e' = f e := by
  cases r with
  | ok a => exact iff_of_false nofun fun ⟨_, h, _⟩ ↦ nomatch h
  | error e =>
    constructor
    · intro h
      exact ⟨e, rfl, (Except.error.inj h).symm⟩
    · rintro ⟨e', h, rfl⟩
      rw [Except.error.inj h]
      rfl

theorem bind_eq_ok {f : α → Except ε β} {b : β} (h : r.bind f = .ok b) :
    ∃ a, r = .ok a ∧ f a = .ok b := by
  cases r with
  | ok a => exact ⟨a, rfl, h⟩
  | error e => cases h

/-- A chain fails in its first part or behind it. -/
theorem bind_eq_error_iff {f : α → Except ε β} {e : ε} :
    r.bind f = .error e ↔ r = .error e ∨ ∃ a, r = .ok a ∧ f a = .error e := by
  cases r with
  | ok a =>
    constructor
    · intro h
      exact .inr ⟨a, rfl, h⟩
    · rintro (h | ⟨a', h, hf⟩)
      · cases h
      · cases h
        exact hf
  | error e' =>
    constructor
    · intro h
      exact .inl (congrArg _ (Except.error.inj h))
    · rintro (h | ⟨a, h, -⟩)
      · cases h
        rfl
      · cases h

end Results

/-- Items that all yield a value yield the list of these. -/
theorem mapM_eq_ok_iff {ε α β : Type} {f : α → Except ε β} {items : List α} {r : List β} :
    items.mapM f = .ok r ↔ List.Forall₂ (fun a b ↦ f a = .ok b) items r := by
  induction items generalizing r with
  | nil =>
    rw [List.mapM_nil, List.forall₂_nil_left_iff]
    exact ⟨fun h ↦ (Except.ok.inj h).symm, fun h ↦ by rw [h]; rfl⟩
  | cons a rest ih =>
    rw [List.mapM_cons, List.forall₂_cons_left_iff]
    constructor
    · intro h
      cases hb : f a with
      | error e => rw [hb] at h; cases h
      | ok b =>
        cases hbs : rest.mapM f with
        | error e => rw [hb, hbs] at h; cases h
        | ok bs =>
          rw [hb, hbs] at h
          exact ⟨b, bs, rfl, ih.mp hbs, (Except.ok.inj h).symm⟩
    · rintro ⟨b, bs, hb, hbs, rfl⟩
      rw [hb, ih.mpr hbs]
      rfl

/-- A traversal depends on what is done with its own items only. -/
theorem mapM_congr {ε α β : Type} {f g : α → Except ε β} {items : List α}
    (h : ∀ a ∈ items, f a = g a) : items.mapM f = items.mapM g := by
  induction items with
  | nil => rfl
  | cons a rest ih =>
    rw [List.forall_mem_cons] at h
    rw [List.mapM_cons, List.mapM_cons, h.1, ih h.2]

/-- Items that do not all yield a value fail as the first of them that fails. -/
theorem mapM_eq_error_iff {ε α β : Type} {f : α → Except ε β} {items : List α} {e : ε} :
    items.mapM f = .error e ↔ ∃ before a after, items = before ++ a :: after ∧
      (∀ a' ∈ before, ∃ b, f a' = .ok b) ∧ f a = .error e := by
  induction items with
  | nil =>
    rw [List.mapM_nil]
    constructor
    · intro h
      cases h
    · rintro ⟨before, a, after, h, -⟩
      cases before <;> cases h
  | cons first rest ih =>
    rw [List.mapM_cons]
    cases hfirst : f first with
    | error e' =>
      constructor
      · intro h
        cases h
        exact ⟨[], first, rest, rfl, List.forall_mem_nil _, hfirst⟩
      · rintro ⟨before, a, after, h, hbefore, ha⟩
        cases before with
        | nil =>
          cases h
          cases hfirst.symm.trans ha
          rfl
        | cons _ _ =>
          cases h
          obtain ⟨b, hb⟩ := hbefore first List.mem_cons_self
          cases hfirst.symm.trans hb
    | ok b =>
      have hrest : (do let bs ← rest.mapM f; pure (b :: bs) : Except ε (List β)) = .error e ↔
          rest.mapM f = .error e := by
        cases rest.mapM f with
        | error e' => exact Iff.rfl
        | ok bs => exact iff_of_false nofun nofun
      refine hrest.trans (ih.trans ?_)
      constructor
      · rintro ⟨before, a, after, rfl, hbefore, ha⟩
        exact ⟨first :: before, a, after, rfl, List.forall_mem_cons.mpr ⟨⟨b, hfirst⟩, hbefore⟩, ha⟩
      · rintro ⟨before, a, after, h, hbefore, ha⟩
        cases before with
        | nil =>
          cases h
          cases hfirst.symm.trans ha
        | cons _ before =>
          cases h
          exact ⟨before, a, after, rfl, fun a' h ↦ hbefore a' (List.mem_cons_of_mem _ h), ha⟩

/-! ## Traced computations -/

namespace Traced

variable {ω ε α β : Type}

@[simp] theorem result_bind (x : Traced ω ε α) (f : α → Traced ω ε β) :
    (x >>= f).result = x.result.bind fun a ↦ (f a).result := by
  rw [bind_def]
  cases h : x.result with
  | ok a => rw [chain_of_ok h]; rfl
  | error e => rw [chain_of_error h]; rfl

theorem result_bind_of_ok {x : Traced ω ε α} {f : α → Traced ω ε β} {a : α}
    (h : x.result = .ok a) : (x >>= f).result = (f a).result := by
  rw [result_bind, h]
  rfl

@[simp] theorem result_monadLift (r : Except ε α) :
    (liftM r : Traced ω ε α).result = r := rfl

theorem endsIn_bind {post : α → Prop} {post' : β → Prop} {fails : ε → Prop} {x : Traced ω ε α}
    {f : α → Traced ω ε β} (h : EndsIn post fails x.result)
    (hf : ∀ a, post a → EndsIn post' fails (f a).result) :
    EndsIn post' fails (x >>= f).result := by
  rw [result_bind]
  exact h.bind hf

/-- A chain that yields a value has one from its first part. -/
theorem bind_eq_ok {x : Traced ω ε α} {f : α → Traced ω ε β} {b : β}
    (h : (x >>= f).result = .ok b) : ∃ a, x.result = .ok a ∧ (f a).result = .ok b := by
  rw [result_bind] at h
  exact MailDispatch.bind_eq_ok h

theorem events_bind_of_ok {x : Traced ω ε α} {f : α → Traced ω ε β} {a : α}
    (h : x.result = .ok a) : (x >>= f).events = x.events ++ (f a).events := by
  rw [bind_def, chain_of_ok h]

theorem events_bind_of_error {x : Traced ω ε α} {f : α → Traced ω ε β} {e : ε}
    (h : x.result = .error e) : (x >>= f).events = x.events := by
  rw [bind_def, chain_of_error h]

section Views

variable {ν : Type} {view : ω → Option ν} {x : Traced ω ε α} {f : α → Traced ω ε β}

theorem filterMap_bind_of_ok {a : α} (h : x.result = .ok a) :
    (x >>= f).events.filterMap view = x.events.filterMap view ++ (f a).events.filterMap view := by
  rw [events_bind_of_ok h, List.filterMap_append]

/-- Of a chain, nothing more can be seen than of its first part if the rest shows nothing. -/
theorem filterMap_bind_of_silent (h : ∀ a, (f a).events.filterMap view = []) :
    (x >>= f).events.filterMap view = x.events.filterMap view := by
  cases hx : x.result with
  | ok a => rw [filterMap_bind_of_ok hx, h a, List.append_nil]
  | error e => rw [events_bind_of_error hx]

end Views

/-- What holds of all events of the parts holds of those of the chain. -/
theorem forall_events_bind {P : ω → Prop} {x : Traced ω ε α} {f : α → Traced ω ε β}
    (hx : ∀ n ∈ x.events, P n) (hf : ∀ a, ∀ n ∈ (f a).events, P n) :
    ∀ n ∈ (x >>= f).events, P n := by
  cases h : x.result with
  | ok a =>
    rw [events_bind_of_ok h]
    exact List.forall_mem_append.mpr ⟨hx, hf a⟩
  | error e =>
    rw [events_bind_of_error h]
    exact hx

/-- What follows a computation matters only for the values that the computation can have. -/
theorem bind_congr {x : Traced ω ε α} {f g : α → Traced ω ε β}
    (h : ∀ a, x.result = .ok a → f a = g a) : x >>= f = x >>= g := by
  rw [bind_def, bind_def]
  cases hx : x.result with
  | ok a => rw [chain_of_ok hx, chain_of_ok hx, h a hx]
  | error e => rw [chain_of_error hx, chain_of_error hx]

end Traced

/-! ## Activities -/

namespace Activity

variable {σ ω ε α β : Type}

/-- A chain goes on where its first part ended, unless that failed: then it ends there. -/
theorem bind_cases (x : Activity σ ω ε α) (f : α → Activity σ ω ε β) (s : σ) :
    (∃ a, (x s).result = .ok a ∧ ((x >>= f) s).result = (f a (x s).state).result) ∨
      ∃ e, (x s).result = .error e ∧ ((x >>= f) s).result = .error e ∧
        ((x >>= f) s).events = (x s).events := by
  rw [bind_apply]
  rcases h : x s with ⟨e | a, s', events⟩
  · rw [chain_of_error h]
    exact .inr ⟨e, rfl, rfl, rfl⟩
  · rw [chain_of_ok h]
    exact .inl ⟨a, rfl, rfl⟩

theorem bind_pure_apply (x : Activity σ ω ε α) (f : α → β) (s : σ) :
    (x >>= fun a ↦ pure (f a)) s = ⟨(x s).result.map f, (x s).state, (x s).events⟩ := by
  rw [bind_apply]
  rcases h : x s with ⟨e | a, s', events⟩
  · rw [chain_of_error h]
    rfl
  · rw [chain_of_ok h, pure_apply, List.append_nil]
    rfl

section Views

variable {ν : Type} {view : ω → Option ν} {x : Activity σ ω ε α} {f : α → Activity σ ω ε β}
  {s : σ}

theorem filterMap_bind_of_ok {a : α} (h : (x s).result = .ok a) :
    ((x >>= f) s).events.filterMap view =
      (x s).events.filterMap view ++ (f a (x s).state).events.filterMap view := by
  rw [bind_apply, chain_of_ok (show x s = ⟨.ok a, (x s).state, (x s).events⟩ by rw [← h]),
    List.filterMap_append]

theorem filterMap_bind_of_error {e : ε} (h : (x s).result = .error e) :
    ((x >>= f) s).events.filterMap view = (x s).events.filterMap view := by
  rw [bind_apply, chain_of_error (show x s = ⟨.error e, (x s).state, (x s).events⟩ by rw [← h])]

theorem filterMap_ensuring (x : Activity σ ω ε α) (last : Activity σ ω ε Unit) (s : σ) :
    (x.ensuring last s).events.filterMap view =
      (x s).events.filterMap view ++ (last (x s).state).events.filterMap view := by
  rw [ensuring, ← List.filterMap_append]
  cases (last (x s).state).result <;> rfl

end Views

end Activity

/-- What an activity keeps: a property of the state, of all events and of all failures. -/
structure Contract (σ ω ε : Type) where
  state : σ → Prop := fun _ ↦ True
  event : ω → Prop := fun _ ↦ True
  failure : ε → Prop := fun _ ↦ True

namespace Activity

variable {σ ω ε α β ν : Type}

/-- Started in a state with the contract's property, the activity keeps the contract, and its value
has the property `post`. -/
def Meets (c : Contract σ ω ε) (post : α → Prop) (x : Activity σ ω ε α) : Prop :=
  ∀ s, c.state s →
    c.state (x s).state ∧ (∀ e ∈ (x s).events, c.event e) ∧ EndsIn post c.failure (x s).result

namespace Meets

variable {c : Contract σ ω ε} {post : α → Prop}

theorem result {x : Activity σ ω ε α} (hx : Meets c post x) {s : σ} (hs : c.state s) :
    EndsIn post c.failure (x s).result :=
  (hx s hs).2.2

/-- Nothing can be seen of an activity under a contract that shows no event. -/
theorem filterMap_eq_nil {view : ω → Option ν} {x : Activity σ ω ε α} (hx : Meets c post x)
    {s : σ} (hs : c.state s) (h : ∀ e, c.event e → view e = none) :
    (x s).events.filterMap view = [] :=
  List.filterMap_eq_nil_iff.mpr fun e he ↦ h e ((hx s hs).2.1 e he)

theorem weaken {post' : α → Prop} {x : Activity σ ω ε α} (hx : Meets c post x)
    (h : ∀ a, post a → post' a) : Meets c post' x := by
  intro s hs
  obtain ⟨h₁, h₂, h₃⟩ := hx s hs
  exact ⟨h₁, h₂, h₃.weaken h fun _ he ↦ he⟩

theorem ofResult {r : Except ε α} (h : EndsIn post c.failure r) :
    Meets c post (Activity.ofResult r : Activity σ ω ε α) :=
  fun _ hs ↦ ⟨hs, by simp [Activity.ofResult], h⟩

theorem pure {a : α} (h : post a) : Meets c post (Pure.pure a : Activity σ ω ε α) :=
  ofResult (r := .ok a) h

theorem fail {e : ε} (h : c.failure e) : Meets c post (Activity.fail e : Activity σ ω ε α) :=
  ofResult (r := .error e) h

theorem bind {post' : β → Prop} {x : Activity σ ω ε α} {f : α → Activity σ ω ε β}
    (hx : Meets c post x) (hf : ∀ a, post a → Meets c post' (f a)) : Meets c post' (x >>= f) := by
  intro s hs
  obtain ⟨hs', he, hr⟩ := hx s hs
  rw [bind_apply]
  rcases h : x s with ⟨e | a, s', events⟩
  · rw [h] at hs' he hr
    rw [chain_of_error h]
    exact ⟨hs', he, hr⟩
  · -- the second activity starts where the first one ended
    rw [h] at hs' he hr
    obtain ⟨hs'', he', hr'⟩ := hf a hr s' hs'
    rw [chain_of_ok h]
    refine ⟨hs'', fun e hmem ↦ ?_, hr'⟩
    rcases List.mem_append.mp hmem with h₁ | h₂
    · exact he e h₁
    · exact he' e h₂

theorem get : Meets c c.state (Activity.get : Activity σ ω ε σ) :=
  fun _ hs ↦ ⟨hs, by simp [Activity.get], hs⟩

theorem modify {f : σ → σ} (h : ∀ s, c.state s → c.state (f s)) :
    Meets c (fun _ ↦ True) (Activity.modify f : Activity σ ω ε Unit) :=
  fun s hs ↦ ⟨h s hs, by simp [Activity.modify], trivial⟩

theorem emit {e : ω} (h : c.event e) :
    Meets c (fun _ ↦ True) (Activity.emit e : Activity σ ω ε Unit) :=
  fun _ hs ↦ ⟨hs, by simpa [Activity.emit] using h, trivial⟩

theorem ofTraced {keep : σ → ν → Option ω} {x : Traced ν ε α}
    (he : ∀ s, ∀ n ∈ x.events, ∀ e, keep s n = some e → c.event e)
    (hr : EndsIn post c.failure x.result) : Meets c post (Activity.ofTraced keep x) := by
  refine fun s hs ↦ ⟨hs, fun e hmem ↦ ?_, hr⟩
  obtain ⟨n, hx, hn⟩ := List.mem_filterMap.mp hmem
  exact he s n hx e hn

/-- A handler is asked only for the failures that the first activity can have. -/
theorem rescue (fails : ε → Prop) {x : Activity σ ω ε α} {handler : ε → Activity σ ω ε α}
    (hx : Meets { c with failure := fails } post x)
    (hh : ∀ e, fails e → Meets c post (handler e)) : Meets c post (x.rescue handler) := by
  intro s hs
  obtain ⟨h₁, h₂, h₃⟩ := hx s hs
  rw [Activity.rescue]
  rcases hr : x s with ⟨e | a, s', events⟩
  · -- the handler starts in the state in which the first activity failed
    rw [hr] at h₁ h₂ h₃
    obtain ⟨h₄, h₅, h₆⟩ := hh e h₃ s' h₁
    refine ⟨h₄, fun e hmem ↦ ?_, h₆⟩
    rcases List.mem_append.mp hmem with h₇ | h₈
    · exact h₂ e h₇
    · exact h₅ e h₈
  · rw [hr] at h₁ h₂ h₃
    exact ⟨h₁, h₂, h₃⟩

theorem ensuring {x : Activity σ ω ε α} {last : Activity σ ω ε Unit} (hx : Meets c post x)
    (hl : Meets c (fun _ ↦ True) last) : Meets c post (x.ensuring last) := by
  intro s hs
  obtain ⟨h₁, h₂, h₃⟩ := hx s hs
  obtain ⟨h₄, h₅, h₆⟩ := hl (x s).state h₁
  have hevents : ∀ e ∈ (x s).events ++ (last (x s).state).events, c.event e := by
    intro e hmem
    rcases List.mem_append.mp hmem with h₇ | h₈
    · exact h₂ e h₇
    · exact h₅ e h₈
  rw [Activity.ensuring]
  match hr : (last (x s).state).result with
  | .ok _ => exact ⟨h₄, hevents, h₃⟩
  -- the failure of the last activity takes the place of the result
  | .error e => rw [hr] at h₆; exact ⟨h₄, hevents, h₆⟩

end Meets

end Activity

end MailDispatch
