import MailDispatch.Proofs.Address.Scan

/-!
# How an item of an address list ends

Addresses with a domain, addresses in angle brackets, and the items made of them. An item passes
over the comma behind it, so what is left over where it is closed is the text behind that comma.
-/

namespace MailDispatch.Address

open Text (isBlank)

/-! ## Addresses -/

/-- What follows a local part: a domain behind an at sign, or nothing. -/
def behindLocal (text left : List Char) : List Char × List Char :=
  match left with
  | '@' :: rest => match (domain (gap 0 rest).2).1.getD [] with
    | [] => ([], (domain (gap 0 rest).2).2)
    | d :: ds => (text ++ '@' :: d :: ds, (domain (gap 0 rest).2).2)
  | _ => (text, left)

theorem addrSpec_eq (s : List Char) :
    addrSpec s = behindLocal (localText [] (gap 0 s).2).1 (localText [] (gap 0 s).2).2 := by
  rw [addrSpec, localText]
  rfl

theorem behindLocal_of_ne {c : Char} (hc : c ≠ '@') (text rest : List Char) :
    behindLocal text (c :: rest) = (text, c :: rest) := by
  rw [behindLocal]
  rintro u hu
  exact hc (List.cons.inj hu).1

theorem gapDomain_ending (s : List Char) : Ending HasBlankIn (fun u ↦ domain (gap 0 u).2) s := by
  exact (skipGap_ending s).after (domain_ending (gap 0 s).2) domain_nil domain_comma

theorem behindLocal_ending (text : List Char) {s : List Char} (hs : s ≠ []) :
    Ending HasBlank (behindLocal text) s := by
  cases s with
  | nil => exact absurd rfl hs
  | cons c rest =>
    by_cases ha : c = '@'
    · subst ha
      refine (gapDomain_ending rest).map (k := fun o ↦ match o.getD [] with
        | [] => []
        | d :: ds => text ++ '@' :: d :: ds) ?_ fun v ↦ ?_
      · rintro o ⟨w, rfl, c, hc, hb⟩
        cases w with
        | nil => cases hc
        | cons d ds => exact ⟨c, List.mem_append_right _ (List.mem_cons_of_mem _ hc), hb⟩
      · rw [List.cons_append, behindLocal]
        cases (domain (gap 0 (rest ++ v)).2).1.getD [] <;> rfl
    · exact .settled fun v ↦ by
        rw [behindLocal_of_ne ha, List.cons_append, behindLocal_of_ne ha]

theorem addrSpec_ending (s : List Char) : Ending HasBlank addrSpec s := by
  have hgap : Ending HasBlankPart (fun u ↦ ([], (gap 0 u).2)) s :=
    (gap_ending 0 s).forget [] fun _ ↦ rfl
  have hlocal := localText_ending_of hgap (fun u ↦ ⟨u, rfl⟩) (localText_ending [])
  refine (Ending.comp (g := behindLocal) hlocal (behindLocal_ending _) (fun x ↦ ⟨rfl, id⟩)
    (fun x v ↦ ?_) fun _ c hc _ ↦ ?_).congr fun v ↦ addrSpec_eq _
  · rw [behindLocal_of_ne (by decide)]
    exact ⟨rfl, .inl rfl⟩
  · exact .inl (behindLocal_of_ne (ne_of_isBlank hc (by decide)) _ _)

/-! ## Angle brackets -/

/-- Reads what stands between angle brackets like `angleAddr`, up to the character that is passed
over in the end. -/
def angleSpec (route : Bool) (s : List Char) : List Char × List Char :=
  match s with
  | [] => ([], [])
  | c :: rest =>
    if route then
      have := length_domain_le (c :: rest)
      have := length_gap_le 0 (domain (c :: rest)).2
      angleSpec false (gap 0 (domain (c :: rest)).2).2
    else if c = '>' then ([], c :: rest)
    else if c = '@' then
      have := length_gap_le 0 rest
      angleSpec true (gap 0 rest).2
    else if c = ':' then
      have := length_gap_le 0 rest
      angleSpec false (gap 0 rest).2
    else addrSpec (c :: rest)
termination_by 2 * s.length + route.toNat
decreasing_by all_goals simp_all <;> omega

theorem angleAddr_eq (route : Bool) (s : List Char) :
    angleAddr route s = ((angleSpec route s).1, (angleSpec route s).2.drop 1) := by
  fun_induction angleSpec route s with
  | case1 => rw [angleAddr]; rfl
  | case2 c rest _ _ ih => rw [angleAddr, if_pos rfl, ih]
  | case3 route rest h => rw [angleAddr, if_neg h, if_pos rfl]; rfl
  | case4 route rest h _ h₁ ih => rw [angleAddr, if_neg h, if_neg h₁, if_pos rfl, ih]
  | case5 route rest h _ h₁ h₂ ih =>
    rw [angleAddr, if_neg h, if_neg h₁, if_neg h₂, if_pos rfl, ih]
  | case6 route c rest h h₁ h₂ h₃ =>
    rw [angleAddr, if_neg h, if_neg h₁, if_neg h₂, if_neg h₃]

theorem angleSpec_nil (route : Bool) : angleSpec route [] = ([], []) := by
  rw [angleSpec]

theorem addrSpec_comma (v : List Char) : addrSpec (',' :: v) = ([], ',' :: v) := by
  rw [addrSpec_eq, gap_of_comma, localText_end (by decide) (by decide) (by decide),
    behindLocal_of_ne (by decide)]
  rfl

theorem angleSpec_comma (route : Bool) (v : List Char) :
    angleSpec route (',' :: v) = ([], ',' :: v) := by
  have hfalse : angleSpec false (',' :: v) = ([], ',' :: v) := by
    rw [angleSpec, if_neg Bool.false_ne_true, if_neg (by decide), if_neg (by decide),
      if_neg (by decide), addrSpec_comma]
  cases route with
  | false => exact hfalse
  | true => rw [angleSpec, if_pos rfl, domain_comma, gap_of_comma, hfalse]

theorem angleSpec_addrSpec {c : Char} (h₁ : c ≠ '>') (h₂ : c ≠ '@') (h₃ : c ≠ ':')
    (rest : List Char) : angleSpec false (c :: rest) = addrSpec (c :: rest) := by
  rw [angleSpec, if_neg Bool.false_ne_true, if_neg h₁, if_neg h₂, if_neg h₃]

theorem domainGap_ending (s : List Char) :
    Ending (fun _ : Unit ↦ False) (fun u ↦ ((), (gap 0 (domain u).2).2)) s := by
  have hdomain : Ending (fun _ : Unit ↦ False) (fun u ↦ ((), (domain u).2)) s :=
    (domain_ending s).forget () fun _ ↦ rfl
  refine hdomain.after (g := fun u ↦ ((), (gap 0 u).2)) (skipGap_ending _) rfl fun v ↦ ?_
  rw [gap_of_comma]

theorem angleSpec_blank (route : Bool) {c : Char} (hc : isBlank c) :
    angleSpec route [c] = ([], [c]) ∨
      (angleSpec route [c]).2 = [] ∧ Blurs HasBlank [] (angleSpec route [c]).1 := by
  have hfalse : angleSpec false [c] = ([], [c]) ∨
      (angleSpec false [c]).2 = [] ∧ Blurs HasBlank [] (angleSpec false [c]).1 := by
    rw [angleSpec_addrSpec (ne_of_isBlank hc (by decide)) (ne_of_isBlank hc (by decide))
      (ne_of_isBlank hc (by decide))]
    have hnil : addrSpec [] = ([], []) := by
      rw [addrSpec_eq, gap, localText_nil]
      rfl
    have h := (addrSpec_ending []).blank hc
    rw [hnil, List.nil_append] at h
    exact h.imp id fun h ↦ h.2
  cases route with
  | false => exact hfalse
  | true =>
    rw [angleSpec, if_pos rfl]
    have hnil : (gap 0 (domain []).2).2 = [] := by rw [domain_nil]; rfl
    rcases (domainGap_ending []).blank hc with h | ⟨-, h, -⟩
    · rw [List.nil_append, hnil] at h
      rw [show (gap 0 (domain [c]).2).2 = [c] from congrArg Prod.snd h]
      exact hfalse
    · rw [show (gap 0 (domain [c]).2).2 = [] from h, angleSpec_nil]
      exact .inr ⟨rfl, .inl rfl⟩

theorem angleSpec_ending (route : Bool) (s : List Char) : Ending HasBlank (angleSpec route) s := by
  induction route, s using angleSpec.induct with
  | case1 route =>
    refine .closed (by rw [angleSpec_nil]) (fun v ↦ ?_) fun c hc ↦ ?_
    · rw [List.nil_append, angleSpec_comma, angleSpec_nil]
      exact ⟨rfl, .inl rfl⟩
    · rw [List.nil_append, angleSpec_nil]
      exact angleSpec_blank route hc
  | case2 c rest _ _ ih =>
    refine ((domainGap_ending (c :: rest)).after ih (angleSpec_nil _) (angleSpec_comma _)).congr
      fun v ↦ ?_
    rw [List.cons_append, angleSpec, if_pos rfl]
  | case3 route rest hr =>
    have hend : ∀ u, angleSpec route ('>' :: u) = ([], '>' :: u) := fun u ↦ by
      rw [angleSpec, if_neg hr, if_pos rfl]
    refine .settled fun v ↦ ?_
    rw [List.cons_append, hend, hend, List.cons_append]
  | case4 route rest hr _ h₁ ih =>
    refine ((skipGap_ending rest).after ih (angleSpec_nil _) (angleSpec_comma _)).congr fun v ↦ ?_
    rw [List.cons_append, angleSpec, if_neg hr, if_neg h₁, if_pos rfl]
  | case5 route rest hr _ h₁ h₂ ih =>
    refine ((skipGap_ending rest).after ih (angleSpec_nil _) (angleSpec_comma _)).congr fun v ↦ ?_
    rw [List.cons_append, angleSpec, if_neg hr, if_neg h₁, if_neg h₂, if_pos rfl]
  | case6 route c rest hr h₁ h₂ h₃ =>
    rw [Bool.not_eq_true] at hr
    subst hr
    exact (addrSpec_ending (c :: rest)).congr fun v ↦ angleSpec_addrSpec h₁ h₂ h₃ _

/-! ## Commas -/

theorem afterComma_of_nil {s : List Char} (h : (gap 0 s).2 = []) : afterComma s = [] := by
  rw [afterComma, h]

theorem afterComma_of_comma {s rest : List Char} (h : (gap 0 s).2 = ',' :: rest) :
    afterComma s = rest := by
  rw [afterComma, h]
  rfl

theorem afterComma_of_ne {s : List Char} (h : (gap 0 s).2.head? ≠ some ',') :
    afterComma s = (gap 0 s).2 := by
  rw [afterComma]
  split
  · next hc => rw [hc] at h; exact absurd rfl h
  · rfl

/-- Passing over a comma is settled, or the text has come to its end before one. -/
theorem afterComma_cases (s : List Char) :
    (∀ v, afterComma (s ++ v) = afterComma s ++ v) ∨
      afterComma s = [] ∧
        (∀ c, isBlank c → afterComma (s ++ [c]) = [c] ∨ afterComma (s ++ [c]) = []) ∧
        ((∀ v, afterComma (s ++ ',' :: v) = v) ∨
          ∀ w, IsOrdinary w → afterComma (s ++ w) = []) := by
  have h := gap_ending 0 s
  cases hr : (gap 0 s).2 with
  | nil =>
    refine .inr ⟨afterComma_of_nil hr, fun c hc ↦ ?_, ?_⟩
    · rcases h.blank hc with hp | ⟨-, hp, -⟩
      · have hrest : (gap 0 (s ++ [c])).2 = [c] := by rw [hp, hr]; rfl
        rw [afterComma_of_ne (by
          rw [hrest]
          exact fun hcomma ↦ ne_of_isBlank hc (by decide) (Option.some.inj hcomma)), hrest]
        exact .inl rfl
      · exact .inr (afterComma_of_nil hp)
    · rcases h.comma_or_ordinary hr with hc | hw
      · exact .inl fun v ↦ afterComma_of_comma (hc v).1
      · exact .inr fun w hwo ↦ afterComma_of_nil (hw w hwo)
  | cons c rest =>
    have hv : ∀ v, (gap 0 (s ++ v)).2 = c :: (rest ++ v) := fun v ↦ by
      rw [h.settled_of_ne_nil (by rw [hr]; simp), hr]
      rfl
    refine .inl fun v ↦ ?_
    by_cases hc : c = ','
    · subst hc
      rw [afterComma_of_comma (hv v), afterComma_of_comma hr]
    · have hne : ∀ u, (c :: u).head? ≠ some ',' := fun u hcomma ↦ hc (Option.some.inj hcomma)
      rw [afterComma_of_ne (by rw [hv]; exact hne _), afterComma_of_ne (by rw [hr]; exact hne _),
        hv, hr]
      rfl

theorem afterComma_blank {c : Char} (hc : isBlank c) :
    afterComma [c] = [c] ∨ afterComma [c] = [] := by
  rcases afterComma_cases [] with h | ⟨-, h, -⟩
  · exact .inl (h [c])
  · exact h c hc

/-! ## Items -/

/-- White space in the address that was found. -/
def IsTainted : Item → Prop
  | .found address => HasBlank address
  | _ => False

/-- Two addresses, or twice nothing. -/
def SameKind : Item → Item → Prop
  | .found _, .found _ => True
  | .nothing, .nothing => True
  | _, _ => False

/-- There is an item at the front of the text, and no comma. -/
def StartsItem (v : List Char) : Prop := (gap 0 v).2 ≠ [] ∧ (gap 0 v).2.head? ≠ some ','

/-- How the reading `h` of an item from the text `s` ends. -/
inductive ItemEnding (h : List Char → Item × List Char) (s : List Char) : Prop where
  | settled (hs : ∀ v, h (s ++ v) = ((h s).1, (h s).2 ++ v))
  /-- A comma that follows is passed over. -/
  | closed (hr : (h s).2 = [])
      (comma : ∀ v, StartsItem v →
        ((h (s ++ ',' :: v)).2 = v ∨ (h (s ++ ',' :: v)).2 = (gap 0 v).2) ∧
          Blurs IsTainted (h (s ++ ',' :: v)).1 (h s).1)
      (blank : ∀ c, isBlank c → h (s ++ [c]) = ((h s).1, [c]) ∨
        (h (s ++ [c])).2 = [] ∧ Blurs IsTainted (h s).1 (h (s ++ [c])).1)
  | unclosed (hr : (h s).2 = [])
      (ordinary : ∀ w, IsOrdinary w → (h (s ++ w)).2 = [] ∧ SameKind (h (s ++ w)).1 (h s).1)
      (blank : ∀ c, isBlank c → h (s ++ [c]) = ((h s).1, [c]) ∨
        (h (s ++ [c])).2 = [] ∧ Blurs IsTainted (h s).1 (h (s ++ [c])).1)

variable {h : List Char → Item × List Char} {s s' : List Char}

/-- White space at the end is left over or taken in. -/
theorem ItemEnding.blank (he : ItemEnding h s) {c : Char} (hc : isBlank c) :
    h (s ++ [c]) = ((h s).1, (h s).2 ++ [c]) ∨
      (h s).2 = [] ∧ (h (s ++ [c])).2 = [] ∧ Blurs IsTainted (h s).1 (h (s ++ [c])).1 := by
  have hend : (h s).2 = [] → (h (s ++ [c]) = ((h s).1, [c]) ∨
      (h (s ++ [c])).2 = [] ∧ Blurs IsTainted (h s).1 (h (s ++ [c])).1) →
      h (s ++ [c]) = ((h s).1, (h s).2 ++ [c]) ∨
        (h s).2 = [] ∧ (h (s ++ [c])).2 = [] ∧ Blurs IsTainted (h s).1 (h (s ++ [c])).1 := by
    intro hr hb
    rw [hr]
    exact hb.imp id fun hb ↦ ⟨rfl, hb⟩
  cases he with
  | settled hs => exact .inl (hs [c])
  | closed hr _ hb => exact hend hr (hb c hc)
  | unclosed hr _ hb => exact hend hr (hb c hc)

theorem ItemEnding.congr {g : List Char → Item × List Char} (he : ItemEnding h s)
    (hg : ∀ v, g (s' ++ v) = h (s ++ v)) : ItemEnding g s' := by
  have hs : g s' = h s := by simpa using hg []
  cases he with
  | settled he => exact .settled fun v ↦ by rw [hg, hs, he]
  | closed hr hc hb =>
    exact .closed (by rw [hs, hr]) (fun v hv ↦ by rw [hg, hs]; exact hc v hv)
      fun d hd ↦ by rw [hg, hs]; exact hb d hd
  | unclosed hr hw hb =>
    exact .unclosed (by rw [hs, hr]) (fun w hwo ↦ by rw [hg, hs]; exact hw w hwo)
      fun d hd ↦ by rw [hg, hs]; exact hb d hd

/-- An item that is known ends as the passing over of a comma does. -/
theorem ItemEnding.of_afterComma {i : Item} (hi : SameKind i i) (u : List Char)
    (hh : ∀ v, h (s ++ v) = (i, afterComma (u ++ v))) : ItemEnding h s := by
  have hs : h s = (i, afterComma u) := by simpa using hh []
  rcases afterComma_cases u with hset | ⟨hr, hb, hcases⟩
  · exact .settled fun v ↦ by rw [hh, hset, hs]
  · have hblank : ∀ c, isBlank c → h (s ++ [c]) = ((h s).1, [c]) ∨
        (h (s ++ [c])).2 = [] ∧ Blurs IsTainted (h s).1 (h (s ++ [c])).1 := by
      intro c hc
      rw [hh, hs]
      rcases hb c hc with hbc | hbc
      · exact .inl (by rw [hbc])
      · exact .inr ⟨hbc, .inl rfl⟩
    rcases hcases with hc | hw
    · refine .closed (by rw [hs, hr]) (fun v _ ↦ ?_) hblank
      rw [hh, hs, hc]
      exact ⟨.inl rfl, .inl rfl⟩
    · refine .unclosed (by rw [hs, hr]) (fun w hwo ↦ ?_) hblank
      rw [hh, hs]
      exact ⟨hw w hwo, hi⟩

/-- An address that is found ends as its reading does; in angle brackets, one more character is
passed over behind it. -/
theorem ItemEnding.of_found {f : List Char → List Char × List Char} (hf : Ending HasBlank f s')
    {n : Nat} (hn : n ≤ 1)
    (hh : ∀ v, h (s ++ v) = (.found (f (s' ++ v)).1, afterComma ((f (s' ++ v)).2.drop n))) :
    ItemEnding h s := by
  have hs : h s = (.found (f s').1, afterComma ((f s').2.drop n)) := by simpa using hh []
  by_cases hr : (f s').2 = []
  · have hr' : (h s).2 = [] := by rw [hs, hr, List.drop_nil]; rfl
    have hblank : ∀ c, isBlank c → h (s ++ [c]) = ((h s).1, [c]) ∨
        (h (s ++ [c])).2 = [] ∧ Blurs IsTainted (h s).1 (h (s ++ [c])).1 := by
      intro c hc
      rcases hf.blank hc with hp | ⟨-, hp, hx⟩
      · rw [hh, hs, hp, hr, List.nil_append]
        have hrest : afterComma ([c].drop n) = [c] ∨ afterComma ([c].drop n) = [] := by
          match n, hn with
          | 0, _ => exact afterComma_blank hc
          | 1, _ => exact .inr rfl
        rcases hrest with hrest | hrest
        · exact .inl (by rw [hrest])
        · exact .inr ⟨hrest, .inl rfl⟩
      · rw [hh, hs, hp, List.drop_nil]
        exact .inr ⟨rfl, hx.map fun _ h ↦ h⟩
    rcases hf.comma_or_ordinary hr with hc | hw
    · refine .closed hr' (fun v hv ↦ ?_) hblank
      rw [hh, hs, (hc v).1]
      refine ⟨?_, (hc v).2.map fun _ h ↦ h⟩
      match n, hn with
      | 0, _ => exact .inl (afterComma_of_comma (congrArg Prod.snd (gap_of_comma v)))
      | 1, _ => exact .inr (afterComma_of_ne hv.2)
    · refine .unclosed hr' (fun w hwo ↦ ?_) hblank
      rw [hh, hs, hw w hwo, List.drop_nil]
      exact ⟨rfl, trivial⟩
  · -- the address is settled, and what is left depends on the comma behind it
    have hlen : n ≤ (f s').2.length := Nat.le_trans hn (List.length_pos_iff.mpr hr)
    refine .of_afterComma (i := .found (f s').1) trivial ((f s').2.drop n) fun v ↦ ?_
    rw [hh, hf.settled_of_ne_nil hr, List.drop_append_of_le_length hlen]

/-- Reads a phrase, of which the first word is kept, and the gap behind it. -/
def wordGap (s : List Char) : Option (List Char) × List Char :=
  ((firstWord s).1, (gap 0 (firstWord s).2).2)

theorem wordGap_ending (s : List Char) : Ending HasBlankIn wordGap s := by
  have hgap : Ending HasBlankIn (fun u ↦ ((firstWord s).1, (gap 0 u).2)) (firstWord s).2 :=
    (gap_ending 0 _).forget _ fun _ ↦ rfl
  exact Ending.comp_of_ending (g := fun o u ↦ (o, (gap 0 u).2)) (firstWord_ending s) hgap
    (fun _ ↦ ⟨rfl, id⟩) fun _ v ↦ by rw [gap_of_comma]; exact ⟨rfl, .inl rfl⟩

/-- The first word of a phrase, taken for an address. -/
def ofWord : Option (List Char) → Item
  | none => .nothing
  | some w => .found w

theorem isTainted_ofWord {o : Option (List Char)} (h : HasBlankIn o) : IsTainted (ofWord o) := by
  obtain ⟨w, rfl, hw⟩ := h
  exact hw

theorem itemAt_of_nil (h : (wordGap s).2 = []) : itemAt s = (ofWord (wordGap s).1, []) := by
  rw [itemAt, show (gap 0 (phrase s).2).2 = [] from h]
  show (ofWords (phrase s).1, []) = (ofWord (phrase s).1.head?, [])
  cases (phrase s).1 <;> rfl

theorem itemAt_of_at {rest : List Char} (h : (wordGap s).2 = '@' :: rest) :
    itemAt s = (.found (addrSpec s).1, afterComma (addrSpec s).2) := by
  rw [itemAt, show (gap 0 (phrase s).2).2 = '@' :: rest from h]
  rfl

theorem itemAt_of_colon {rest : List Char} (h : (wordGap s).2 = ':' :: rest) :
    itemAt s = (.groupStart, rest) := by
  rw [itemAt, show (gap 0 (phrase s).2).2 = ':' :: rest from h]
  rfl

theorem itemAt_of_angle {rest : List Char} (h : (wordGap s).2 = '<' :: rest) :
    itemAt s = (.found (angleSpec false (gap 0 rest).2).1,
      afterComma ((angleSpec false (gap 0 rest).2).2.drop 1)) := by
  rw [itemAt, show (gap 0 (phrase s).2).2 = '<' :: rest from h]
  simp only [angleAddr_eq]

theorem itemAt_of_other {c : Char} {rest : List Char} (h : (wordGap s).2 = c :: rest)
    (h₁ : c ≠ '@') (h₂ : c ≠ ':') (h₃ : c ≠ '<') :
    itemAt s = (ofWord (wordGap s).1,
      afterComma (if (wordGap s).1.isNone then rest else c :: rest)) := by
  have hphrase : (wordGap s).1 = (phrase s).1.head? := rfl
  rw [itemAt, show (gap 0 (phrase s).2).2 = c :: rest from h, hphrase]
  cases (phrase s).1 with
  | nil => simp [ofWord]
  | cons w ws => simp [ofWord]

/-- Unless it is empty, a phrase that starts behind a gap has its first word whatever follows. -/
theorem exists_wordGap {c : Char} (hs : (isSpace c || isLineBreak c) = false) (hp : c ≠ '(')
    {rest : List Char} (h : (wordGap (c :: rest)).2 = []) (u : List Char) :
    ∃ w, (wordGap (c :: u)).1 = some w := by
  by_cases hq : c = '"'
  · subst hq
    exact ⟨_, congrArg Prod.fst (firstWord_quote u)⟩
  · cases he : endsWord c with
    | true =>
      rw [wordGap, firstWord_end hs hq hp he, gap_of_head hs hp] at h
      cases h
    | false => exact ⟨_, congrArg Prod.fst (firstWord_atom hs hq hp he u)⟩

/-- An item that comes to the end of the text has an address, its first word. -/
theorem itemAt_ending_of_nil {c : Char} (hs : (isSpace c || isLineBreak c) = false) (hp : c ≠ '(')
    {rest : List Char} (hr : (wordGap (c :: rest)).2 = []) : ItemEnding itemAt (c :: rest) := by
  have h := wordGap_ending (c :: rest)
  have hsome := exists_wordGap hs hp hr
  obtain ⟨w, hw⟩ := hsome rest
  have hitem : itemAt (c :: rest) = (.found w, []) := by rw [itemAt_of_nil hr, hw, ofWord]
  have hblank : ∀ d, isBlank d → itemAt (c :: rest ++ [d]) = ((itemAt (c :: rest)).1, [d]) ∨
      (itemAt (c :: rest ++ [d])).2 = [] ∧
        Blurs IsTainted (itemAt (c :: rest)).1 (itemAt (c :: rest ++ [d])).1 := by
    intro d hd
    rw [hitem]
    rcases h.blank hd with hb | ⟨-, hb, hx⟩
    · rw [hr, hw] at hb
      rw [itemAt_of_other (congrArg Prod.snd hb) (ne_of_isBlank hd (by decide))
        (ne_of_isBlank hd (by decide)) (ne_of_isBlank hd (by decide)), hb]
      rcases afterComma_blank hd with ha | ha
      · exact .inl (congrArg (Prod.mk (Item.found w)) ha)
      · exact .inr ⟨ha, .inl rfl⟩
    · rw [itemAt_of_nil hb]
      rw [hw] at hx
      exact .inr ⟨rfl, hx.map (k := ofWord) fun _ ↦ isTainted_ofWord⟩
  rcases h.comma_or_ordinary hr with hc | hwo
  · refine .closed (by rw [hitem]) (fun v _ ↦ ?_) hblank
    obtain ⟨w', hw'⟩ : ∃ w', (wordGap (c :: rest ++ ',' :: v)).1 = some w' :=
      hsome (rest ++ ',' :: v)
    obtain ⟨hv, hx⟩ := hc v
    rw [hw', hw] at hx
    rw [itemAt_of_other hv (by decide) (by decide) (by decide), hitem, hw']
    exact ⟨.inl (afterComma_of_comma (congrArg Prod.snd (gap_of_comma v))),
      hx.map (k := ofWord) fun _ ↦ isTainted_ofWord⟩
  · refine .unclosed (by rw [hitem]) (fun u hu ↦ ?_) hblank
    obtain ⟨w', hw'⟩ : ∃ w', (wordGap (c :: rest ++ u)).1 = some w' := hsome (rest ++ u)
    rw [itemAt_of_nil (hwo u hu), hitem, hw']
    exact ⟨rfl, trivial⟩

theorem itemAt_ending {c : Char} (hs : (isSpace c || isLineBreak c) = false) (hp : c ≠ '(')
    (rest : List Char) : ItemEnding itemAt (c :: rest) := by
  have h := wordGap_ending (c :: rest)
  cases hr : (wordGap (c :: rest)).2 with
  | nil => exact itemAt_ending_of_nil hs hp hr
  | cons d left =>
    -- the phrase is settled, so that the character behind it says what the item is
    have hset : ∀ v, wordGap (c :: rest ++ v) = ((wordGap (c :: rest)).1, d :: (left ++ v)) :=
      fun v ↦ by rw [h.settled_of_ne_nil (by rw [hr]; simp), hr]; rfl
    have hsnd : ∀ v, (wordGap (c :: rest ++ v)).2 = d :: (left ++ v) := fun v ↦ by rw [hset]
    by_cases h₁ : d = '@'
    · subst h₁
      exact .of_found (n := 0) (addrSpec_ending (c :: rest)) (Nat.zero_le 1)
        fun v ↦ itemAt_of_at (hsnd v)
    · by_cases h₂ : d = ':'
      · subst h₂
        exact .settled fun v ↦ by rw [itemAt_of_colon (hsnd v), itemAt_of_colon hr]
      · by_cases h₃ : d = '<'
        · subst h₃
          have hangle := (skipGap_ending left).after (angleSpec_ending false _)
            (angleSpec_nil false) (angleSpec_comma false)
          exact .of_found (n := 1) hangle (Nat.le_refl 1) fun v ↦ itemAt_of_angle (hsnd v)
        · refine .of_afterComma (i := ofWord (wordGap (c :: rest)).1) ?_
            (if (wordGap (c :: rest)).1.isNone then left else d :: left) fun v ↦ ?_
          · cases (wordGap (c :: rest)).1 <;> trivial
          · rw [itemAt_of_other (hsnd v) h₁ h₂ h₃, hset]
            cases (wordGap (c :: rest)).1 <;> rfl

/-- Every item that does not consist of a gap has an ending. -/
theorem item_ending {s : List Char} (h : (gap 0 s).2 ≠ []) : ItemEnding item s := by
  cases hr : (gap 0 s).2 with
  | nil => exact absurd hr h
  | cons c rest =>
    obtain ⟨hs, hp⟩ := head_gap 0 hr
    have heq : ∀ v, item (s ++ v) = itemAt (c :: rest ++ v) := fun v ↦ by
      rw [item, (gap_ending 0 s).settled_of_ne_nil h, hr]
    exact (itemAt_ending hs hp rest).congr heq

end MailDispatch.Address
