import MailDispatch.Proofs.Address.Surroundings

/-!
# What stands before a closing bracket

`between` is the text up to the next closing angle bracket that is part of no quoted word and no
comment; white space and comments are left out. An address that is read from a text is the beginning
of that text, however much white space and however many comments there are, so that it is the whole
of it exactly if nothing else stands before the bracket. Only quoted words are not always read as
they are written: the address escapes what has to be escaped and nothing else.
-/

namespace MailDispatch.Address

open Text (isBlank)

/-! ## The text before the bracket -/

/-- A quoted word as it is written; `s` is the text behind its opening quote. -/
def quotedAsWritten (s : List Char) : List Char :=
  '"' :: s.take (s.length - (delimited '"' s).2.length)

/-- A quoted word as it is held in an address. -/
def quotedAsRead (s : List Char) : List Char := requote (delimited '"' s).1

/-- The text up to the next closing angle bracket, if there is one, without white space and
comments. What becomes of a quoted word is given as a function of the text behind its quote. -/
def between (quoted : List Char → List Char) (s : List Char) : Option (List Char) :=
  match h : (gap 0 s).2 with
  | [] => none
  | c :: rest =>
    have hlength : rest.length < s.length := by
      have hle := length_gap_le 0 s
      rw [h] at hle
      exact hle
    have hword : (delimited '"' rest).2.length < s.length :=
      (length_delimited_le '"' rest).trans_lt hlength
    if c = '>' then some []
    else if c = '"' then (between quoted (delimited '"' rest).2).map (quoted rest ++ ·)
    else if isBlank c then between quoted rest
    else (between quoted rest).map (c :: ·)
termination_by s.length
decreasing_by
  · exact hword
  · exact hlength
  · exact hlength

section Equations

variable {quoted : List Char → List Char} {s rest : List Char} {c : Char}

theorem between_of_nil (h : (gap 0 s).2 = []) : between quoted s = none := by
  rw [between]
  split
  · rfl
  · next h' => cases h.symm.trans h'

theorem between_of_close (h : (gap 0 s).2 = '>' :: rest) : between quoted s = some [] := by
  rw [between]
  split
  · next h' => cases h.symm.trans h'
  · next h' =>
    cases h.symm.trans h'
    rfl

theorem between_of_quote (h : (gap 0 s).2 = '"' :: rest) :
    between quoted s = (between quoted (delimited '"' rest).2).map (quoted rest ++ ·) := by
  rw [between]
  split
  · next h' => cases h.symm.trans h'
  · next h' =>
    cases h.symm.trans h'
    rfl

/-- Any other character stays, unless it is white space. -/
theorem between_of_char (h : (gap 0 s).2 = c :: rest) (hc : c ≠ '>') (hq : c ≠ '"') :
    between quoted s = (between quoted rest).map ([c].filter (!isBlank ·) ++ ·) := by
  rw [between]
  split
  · next h' => cases h.symm.trans h'
  · next h' =>
    cases h.symm.trans h'
    rw [if_neg hc, if_neg hq]
    cases hb : isBlank c <;> simp [hb]

theorem between_gap (quoted : List Char → List Char) (s : List Char) :
    between quoted (gap 0 s).2 = between quoted s := by
  have hgap := gap_gap s
  cases h : (gap 0 s).2 with
  | nil => rw [between_of_nil h, between_of_nil rfl]
  | cons c rest =>
    rw [h] at hgap
    by_cases hc : c = '>'
    · subst hc
      rw [between_of_close h, between_of_close hgap]
    · by_cases hq : c = '"'
      · subst hq
        rw [between_of_quote h, between_of_quote hgap]
      · rw [between_of_char h hc hq, between_of_char hgap hc hq]

theorem between_comment (quoted : List Char → List Char) (s : List Char) :
    between quoted ('(' :: s) = between quoted (afterComment 1 s) := by
  rw [← between_gap, gap_comment, between_gap]

end Equations

/-- The text before the closing bracket begins with `x`, and goes on with the text that stands
before it in `left`. -/
def Begins (x s left : List Char) : Prop :=
  between quotedAsRead s = (between quotedAsRead left).map (x ++ ·)

namespace Begins

variable {x y s t left : List Char}

theorem refl (s : List Char) : Begins [] s s := by
  rw [Begins]
  simp

theorem trans (hx : Begins x s t) (hy : Begins y t left) : Begins (x ++ y) s left := by
  rw [Begins, hx, hy, Option.map_map]
  simp only [Function.comp_def, List.append_assoc]

theorem of_gap (h : Begins x (gap 0 s).2 t) : Begins x s t := by
  rwa [Begins, between_gap] at h

theorem quote (s : List Char) : Begins (quotedAsRead s) ('"' :: s) (delimited '"' s).2 :=
  between_of_quote (by rw [gap_of_head (by decide) (by decide)])

theorem comment (s : List Char) : Begins [] ('(' :: s) (afterComment 1 s) := by
  rw [Begins, between_comment]
  simp

theorem space {c : Char} (hc : (isSpace c || isLineBreak c) = true) (s : List Char) :
    Begins [] (c :: s) s := by
  rw [Begins, ← between_gap, gap_of_skip hc, between_gap]
  simp

/-- A character that begins neither a gap nor a quoted word and closes nothing is read as it is,
apart from white space. -/
theorem char {c : Char} (hs : (isSpace c || isLineBreak c) = false) (hp : c ≠ '(') (hc : c ≠ '>')
    (hq : c ≠ '"') (s : List Char) : Begins ([c].filter (!isBlank ·)) (c :: s) s :=
  between_of_char (by rw [gap_of_head hs hp]) hc hq

theorem atomChar {c : Char} (hc : endsAtom c = false) (s : List Char) :
    Begins ([c].filter (!isBlank ·)) (c :: s) s := by
  obtain ⟨hs, -, hq, hp⟩ := ne_of_not_endsAtom hc
  have hclose : c ≠ '>' := by
    rintro rfl
    exact absurd hc (by decide)
  exact char hs hp hclose hq s

theorem atom (s : List Char) : Begins ((s.takeWhile fun d ↦ !endsAtom d).filter (!isBlank ·)) s
    (s.dropWhile fun d ↦ !endsAtom d) := by
  induction s with
  | nil => exact refl []
  | cons c rest ih =>
    cases hc : endsAtom c with
    | true => simpa [hc] using refl (c :: rest)
    | false =>
      rw [List.takeWhile_cons, List.dropWhile_cons, hc, Bool.not_false, if_pos rfl, if_pos rfl,
        ← List.singleton_append (l := rest.takeWhile _), List.filter_append]
      exact (atomChar hc rest).trans ih

end Begins

/-! ## Local parts -/

/-- The parts that are not white space throughout, joined. -/
def solid (parts : List (List Char)) : List Char :=
  (parts.filter fun p ↦ !p.all isBlank).reverse.flatten

theorem solid_cons (p : List Char) (parts : List (List Char)) :
    solid (p :: parts) = solid parts ++ if p.all isBlank then [] else p := by
  rw [solid, solid, List.filter_cons]
  cases p.all isBlank <;> simp

theorem solid_dropBlank (parts : List (List Char)) : solid (dropBlank parts) = solid parts := by
  cases parts with
  | nil => rfl
  | cons p parts =>
    rw [dropBlank]
    split
    · next hp => rw [solid_cons, if_pos hp, List.append_nil]
    · rfl

theorem isBlank_of_isSpace {c : Char} (hc : isSpace c = true) : isBlank c = true := by
  rw [isSpace, Bool.or_eq_true, decide_eq_true_iff, decide_eq_true_iff] at hc
  rcases hc with rfl | rfl <;> decide

theorem all_isSpace_gap (depth : Nat) (s : List Char) : (gap depth s).1.all isSpace = true := by
  fun_induction gap depth s <;> simp_all

theorem solid_keepSpace (s : List Char) (parts : List (List Char)) :
    solid (keepSpace (gap 0 s).1 parts) = solid parts := by
  have hblank : (gap 0 s).1.all isBlank = true :=
    List.all_eq_true.mpr fun c hc ↦
      isBlank_of_isSpace (List.all_eq_true.mp (all_isSpace_gap 0 s) c hc)
  rw [keepSpace]
  split
  · rfl
  · rw [solid_cons, if_pos hblank, List.append_nil]

/-- Parts without white space are all kept. -/
theorem solid_of_not_hasBlank {parts : List (List Char)}
    (h : ¬HasBlank parts.reverse.flatten) : solid parts = parts.reverse.flatten := by
  induction parts with
  | nil => rfl
  | cons p parts ih =>
    rw [List.reverse_cons, List.flatten_append] at h ⊢
    have hp : (if p.all isBlank then [] else p) = p := by
      split
      · next hall =>
        cases p with
        | nil => rfl
        | cons c p =>
          refine absurd ⟨c, List.mem_append_right _ (by simp), ?_⟩ h
          exact List.all_eq_true.mp hall c List.mem_cons_self
      · rfl
    rw [solid_cons, ih fun hb ↦ h (hb.append_left _), hp]
    simp

theorem quotedAsRead_not_blank (s : List Char) : (quotedAsRead s).all isBlank = false := by
  rw [quotedAsRead, requote, List.all_cons]
  rfl

/-- An atom that holds white space, and something else too, shows it. -/
theorem hasBlank_localText_atom {p : List Char} (hp : p.all isBlank = false) (hb : HasBlank p)
    (s : List Char) (parts : List (List Char)) (t : List Char) :
    HasBlank (localText (keepSpace (gap 0 s).1 (p :: parts)) t).1 := by
  refine hasBlank_localText ?_ t
  rw [keepSpace]
  split
  · rw [dropBlank, if_neg (by rw [hp]; exact Bool.false_ne_true)]
    exact ⟨p, List.mem_cons_self, hb⟩
  · exact HasBlankPart.dropBlank_cons ⟨p, List.mem_cons_self, hb⟩ _

/-- A local part is what the text begins with, unless white space shows in it. Behind other parts,
that is what it adds to them. -/
theorem localText_begins (parts : List (List Char)) (s : List Char) :
    HasBlank (localText parts s).1 ∨
      ∃ x, solid (localPart parts s).1 = solid parts ++ x ∧ Begins x s (localText parts s).2 := by
  induction parts, s using localPart.induct with
  | case1 parts =>
    refine .inr ⟨[], ?_, ?_⟩
    · rw [localPart, List.append_nil]
    · rw [localText_nil]
      exact .refl []
  | case2 parts rest _ ih =>
    rw [localText_dot, show localPart parts ('.' :: rest)
      = localPart (['.'] :: dropBlank parts) (gap 0 rest).2 by rw [localPart]; rfl]
    refine ih.imp id ?_
    rintro ⟨x, hx, hbegins⟩
    refine ⟨'.' :: x, ?_, ?_⟩
    · rw [hx, solid_cons, solid_dropBlank, List.append_assoc]
      rfl
    · exact (Begins.char (by decide) (by decide) (by decide) (by decide) rest).trans hbegins.of_gap
  | case3 parts rest _ _ _ ih =>
    rw [localText_quote, show localPart parts ('"' :: rest) = localPart
      (keepSpace (gap 0 (delimited '"' rest).2).1 (requote (delimited '"' rest).1 :: parts))
      (gap 0 (delimited '"' rest).2).2 by rw [localPart]; rfl]
    refine ih.imp id ?_
    rintro ⟨x, hx, hbegins⟩
    refine ⟨quotedAsRead rest ++ x, ?_, (Begins.quote rest).trans hbegins.of_gap⟩
    have hword : (requote (delimited '"' rest).1).all isBlank = false :=
      quotedAsRead_not_blank rest
    rw [hx, solid_keepSpace, solid_cons, hword, List.append_assoc]
    rfl
  | case4 parts c rest hd hq he =>
    refine .inr ⟨[], ?_, ?_⟩
    · rw [localPart, if_neg hd, if_neg hq, if_pos he, solid_dropBlank, List.append_nil]
    · rw [localText_end hd hq he]
      exact .refl _
  | case5 parts c rest hd hq he _ _ ih =>
    rw [Bool.not_eq_true] at he
    rw [localText_atom hd hq he, show localPart parts (c :: rest) = localPart
      (keepSpace (gap 0 (rest.dropWhile fun d ↦ !endsAtom d)).1
        ((c :: rest.takeWhile fun d ↦ !endsAtom d) :: parts))
      (gap 0 (rest.dropWhile fun d ↦ !endsAtom d)).2 by
        rw [localPart, if_neg hd, if_neg hq, if_neg (by simp [he])]]
    have hatom := Begins.atom (c :: rest)
    rw [List.takeWhile_cons, List.dropWhile_cons, he, Bool.not_false, if_pos rfl, if_pos rfl]
      at hatom
    generalize hw : (c :: rest.takeWhile fun d ↦ !endsAtom d) = w at ih hatom ⊢
    rcases ih with ih | ⟨x, hx, hbegins⟩
    · exact .inl ih
    cases hall : w.all isBlank with
    | true =>
      -- the atom is white space throughout, and is left out on both sides
      have hnil : w.filter (!isBlank ·) = [] :=
        List.filter_eq_nil_iff.mpr fun d hd ↦ by simpa using List.all_eq_true.mp hall d hd
      rw [hnil] at hatom
      refine .inr ⟨x, ?_, hatom.trans hbegins.of_gap⟩
      rw [hx, solid_keepSpace, solid_cons, if_pos hall, List.append_nil]
    | false =>
      by_cases hb : HasBlank w
      · exact .inl (hasBlank_localText_atom hall hb _ parts _)
      have hsame : w.filter (!isBlank ·) = w :=
        List.filter_eq_self.mpr fun d hd ↦ by simpa using fun hbd ↦ hb ⟨d, hd, hbd⟩
      rw [hsame] at hatom
      refine .inr ⟨w ++ x, ?_, hatom.trans hbegins.of_gap⟩
      rw [hx, solid_keepSpace, solid_cons, hall, List.append_assoc]
      rfl

/-! ## Domains -/

/-- So is a domain, unless it holds a literal or white space. -/
theorem domain_begins (s : List Char) :
    ∀ name, (domain s).1 = some name → ¬HasBlank name → '[' ∉ name →
      Begins name s (domain s).2 := by
  induction s using domain.induct with
  | case1 =>
    rintro name h - -
    rw [domain_nil] at h ⊢
    cases h
    exact .refl []
  | case2 c rest hs ih =>
    intro name h hb hl
    rw [domain_space hs] at h ⊢
    exact (Begins.space (by rw [hs]; rfl) rest).trans (ih name h hb hl)
  | case3 rest _ _ ih =>
    intro name h hb hl
    rw [domain_comment] at h ⊢
    exact (Begins.comment rest).trans (ih name h hb hl)
  | case4 rest _ _ _ _ _ _ ih =>
    intro name h hb hl
    rw [domain_literal, Option.map_eq_some_iff] at h
    obtain ⟨t, -, rfl⟩ := h
    exact absurd List.mem_cons_self hl
  | case5 rest _ _ _ _ _ _ ih =>
    intro name h hb hl
    rw [domain_dot] at h ⊢
    obtain ⟨t, ht, rfl⟩ := Option.map_eq_some_iff.mp h
    refine (Begins.char (c := '.') (by decide) (by decide) (by decide) (by decide) rest).trans
      (ih t ht (fun h ↦ hb (h.cons '.')) fun h ↦ hl (List.mem_cons_of_mem _ h))
  | case6 rest =>
    intro name h
    rw [domain_at] at h
    cases h
  | case7 c rest hs hp hl hd ha he =>
    intro name h _ _
    rw [domain_end (isDomainSign_of_ne hs hp hl hd ha) he] at h ⊢
    cases h
    exact .refl _
  | case8 c rest hs hp hl hd ha he _ _ _ _ ih =>
    intro name h hb hl'
    rw [Bool.not_eq_true] at he
    have hatom := Begins.atom (c :: rest)
    rw [List.takeWhile_cons, List.dropWhile_cons, he, Bool.not_false, if_pos rfl, if_pos rfl]
      at hatom
    rw [domain_atom (isDomainSign_of_ne hs hp hl hd ha) he] at h ⊢
    obtain ⟨t, ht, rfl⟩ := Option.map_eq_some_iff.mp h
    rw [← List.cons_append] at hb hl' ⊢
    generalize hw : (c :: rest.takeWhile fun d ↦ !endsAtom d) = w at hatom hb hl' ⊢
    have hsame : w.filter (!isBlank ·) = w :=
      List.filter_eq_self.mpr fun d hd ↦ by
        simpa using fun hbd ↦ hb ⟨d, List.mem_append_left _ hd, hbd⟩
    rw [hsame] at hatom
    exact hatom.trans (ih t ht (fun h ↦ hb (h.append_right w))
      fun h ↦ hl' (List.mem_append_right w h))

/-! ## Addresses -/

/-- What is not void behind a local part is a domain behind an at sign, or nothing. -/
theorem behindLocal_cases {text left : List Char} (h : (behindLocal text left).1 ≠ []) :
    behindLocal text left = (text, left) ∨ ∃ rest name, left = '@' :: rest ∧
      (domain (gap 0 rest).2).1 = some name ∧
      behindLocal text left = (text ++ '@' :: name, (domain (gap 0 rest).2).2) := by
  cases left with
  | nil => exact .inl rfl
  | cons c rest =>
    by_cases hc : c = '@'
    · subst hc
      rw [behindLocal] at h ⊢
      cases hd : (domain (gap 0 rest).2).1 with
      | none =>
        rw [hd] at h
        exact absurd rfl h
      | some name =>
        cases name with
        | nil =>
          rw [hd] at h
          exact absurd rfl h
        | cons d ds => exact .inr ⟨rest, d :: ds, rfl, hd, rfl⟩
    · exact .inl (behindLocal_of_ne hc text rest)

/-- An address without white space and without a literal is what its text begins with. -/
theorem addrSpec_begins {s : List Char} (hne : (addrSpec s).1 ≠ []) (hb : ¬HasBlank (addrSpec s).1)
    (hl : '[' ∉ (addrSpec s).1) : Begins (addrSpec s).1 s (addrSpec s).2 := by
  rw [addrSpec_eq] at hne hb hl ⊢
  have hlocal : ¬HasBlank (localText [] (gap 0 s).2).1 := fun h ↦
    (behindLocal_hasBlank h _).elim hb hne
  obtain ⟨x, hx, hbegins⟩ := (localText_begins [] (gap 0 s).2).resolve_left hlocal
  obtain rfl : (localText [] (gap 0 s).2).1 = x := (solid_of_not_hasBlank hlocal).symm.trans hx
  rcases behindLocal_cases hne with h | ⟨rest, name, hleft, hname, h⟩
  · rw [h]
    exact hbegins.of_gap
  · rw [h] at hb hl ⊢
    have hdomain := domain_begins _ name hname (fun h ↦ hb ((h.cons '@').append_right _))
      fun h ↦ hl (List.mem_append_right _ (List.mem_cons_of_mem _ h))
    have hat : Begins ['@'] ('@' :: rest) rest :=
      Begins.char (by decide) (by decide) (by decide) (by decide) rest
    rw [hleft] at hbegins
    exact hbegins.of_gap.trans (hat.trans hdomain.of_gap)

/-! ## Quoted words -/

/-- A quoted word that something follows is not shorter as it is written than as it is read. -/
theorem length_delimited_escaped {s : List Char} (h : (delimited '"' s).2 ≠ []) :
    ((delimited '"' s).1.flatMap fun c ↦ if c = '"' || c = '\\' then ['\\', c] else [c]).length
      + 1 + (delimited '"' s).2.length ≤ s.length := by
  fun_induction delimited '"' s with
  | case1 => exact absurd rfl h
  | case2 c rest ih =>
    have := ih h
    simp only [List.flatMap_cons, List.length_append, List.length_cons]
    split <;> simp only [List.length_cons, List.length_nil] <;> omega
  | case3 c rest hesc hc => simp only [List.flatMap_nil, List.length_nil, List.length_cons]; omega
  | case4 rest hesc hc ih =>
    obtain rfl := eq_nil_of_not_escaping rfl hesc
    exact absurd rfl h
  | case5 c rest hesc hc hb ih =>
    have := ih h
    simp only [Bool.or_eq_true, decide_eq_true_iff, not_or] at hc
    rw [List.flatMap_cons, if_neg (by simp [hc.1, hb])]
    simp only [List.length_append, List.length_cons, List.length_nil]
    omega

theorem length_quotedAsRead_le {s : List Char} (h : (delimited '"' s).2 ≠ []) :
    (quotedAsRead s).length ≤ (quotedAsWritten s).length := by
  have hle := length_delimited_escaped h
  rw [quotedAsRead, quotedAsWritten, requote]
  simp only [List.length_cons, List.length_append, List.length_nil, List.length_take]
  omega

/-- Text that is written before a closing bracket is read too, and is not longer then. -/
theorem length_between_le {s x : List Char} (h : between quotedAsWritten s = some x) :
    ∃ y, between quotedAsRead s = some y ∧ y.length ≤ x.length := by
  fun_induction between quotedAsWritten s generalizing x with
  | case1 => cases h
  | case2 s rest hgap _ _ =>
    cases h
    exact ⟨[], between_of_close hgap, le_refl _⟩
  | case3 s rest hgap _ _ _ ih =>
    obtain ⟨x, hx, rfl⟩ := Option.map_eq_some_iff.mp h
    obtain ⟨y, hy, hle⟩ := ih hx
    have hne : (delimited '"' rest).2 ≠ [] := by
      intro hnil
      rw [hnil, between_of_nil rfl] at hx
      cases hx
    refine ⟨quotedAsRead rest ++ y, ?_, ?_⟩
    · rw [between_of_quote hgap, hy]
      rfl
    · have := length_quotedAsRead_le hne
      rw [List.length_append, List.length_append]
      omega
  | case4 s c rest hgap _ _ hc hq hb ih =>
    obtain ⟨y, hy, hle⟩ := ih h
    refine ⟨y, ?_, hle⟩
    rw [between_of_char hgap hc hq, hy]
    simp [hb]
  | case5 s c rest hgap _ _ hc hq hb ih =>
    obtain ⟨x, hx, rfl⟩ := Option.map_eq_some_iff.mp h
    obtain ⟨y, hy, hle⟩ := ih hx
    refine ⟨c :: y, ?_, Nat.succ_le_succ hle⟩
    rw [between_of_char hgap hc hq, hy]
    simp [hb]

end MailDispatch.Address
