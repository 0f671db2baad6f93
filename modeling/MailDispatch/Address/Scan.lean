import MailDispatch.Text.Blank

/-!
# Scanning parts of an address

The parts of which addresses consist, each read from the front of a text: gaps of white space and
comments, quoted words, atoms, phrases, local parts, domains and routes. Every scanner yields what
it read and the text that is left, never more than it was given.

A comment may hold comments and ends, like a quoted word and a domain literal, also at a carriage
return. A backslash takes away the meaning of the character after it.
-/

namespace MailDispatch.Address

open Text (isBlank)

/-! ## Characters -/

/-- The characters that structure an address. -/
def isSpecial (c : Char) : Bool :=
  ['(', ')', '<', '>', '@', ',', ':', ';', '.', '"', '[', ']'].contains c

/-- A blank or a tab. -/
def isSpace (c : Char) : Bool := c = ' ' || c = '\t'

/-- A carriage return or a line feed. -/
def isLineBreak (c : Char) : Bool := c = '\r' || c = '\n'

/-- Where an atom ends. -/
def endsAtom (c : Char) : Bool := isSpecial c || isSpace c || isLineBreak c

/-- Where a word of a phrase ends: there, dots are ordinary characters. -/
def endsWord (c : Char) : Bool := endsAtom c && c != '.'

/-! ## Gaps and delimited parts -/

/-- Passes over white space and comments. The blanks and tabs outside comments are kept, since they
may belong to a local part. `depth` is the number of comments that are open. -/
def gap : (depth : Nat) → List Char → List Char × List Char
  | _, [] => ([], [])
  | 0, c :: rest =>
    if isSpace c then (c :: (gap 0 rest).1, (gap 0 rest).2)
    else if isLineBreak c then gap 0 rest
    else if c = '(' then gap 1 rest
    else ([], c :: rest)
  | depth + 1, '\\' :: _ :: rest => gap (depth + 1) rest
  | depth + 1, c :: rest =>
    if c = ')' || c = '\r' then gap depth rest
    else if c = '(' then gap (depth + 2) rest
    else gap (depth + 1) rest

/-- Passes over what is left of a comment with `depth` open parentheses. -/
def afterComment : (depth : Nat) → List Char → List Char
  | _, [] => []
  | depth, '\\' :: _ :: rest => afterComment depth rest
  | depth, c :: rest =>
    if c = ')' || c = '\r' then if depth ≤ 1 then rest else afterComment (depth - 1) rest
    else if c = '(' then afterComment (depth + 1) rest
    else afterComment depth rest

/-- Reads up to a closing character or a carriage return, taking backslashes away. -/
def delimited (closing : Char) : List Char → List Char × List Char
  | [] => ([], [])
  | '\\' :: c :: rest => (c :: (delimited closing rest).1, (delimited closing rest).2)
  | c :: rest =>
    if c = closing || c = '\r' then ([], rest)
    else if c = '\\' then delimited closing rest
    else (c :: (delimited closing rest).1, (delimited closing rest).2)

theorem length_gap_le (depth : Nat) (s : List Char) : (gap depth s).2.length ≤ s.length := by
  fun_induction gap depth s <;> simp_all <;> omega

theorem length_afterComment_le (depth : Nat) (s : List Char) :
    (afterComment depth s).length ≤ s.length := by
  fun_induction afterComment depth s <;> simp_all <;> omega

theorem length_delimited_le (closing : Char) (s : List Char) :
    (delimited closing s).2.length ≤ s.length := by
  fun_induction delimited closing s <;> simp_all <;> omega

theorem length_dropWhile_le (p : Char → Bool) (s : List Char) :
    (s.dropWhile p).length ≤ s.length := by
  induction s with
  | nil => simp
  | cons c rest ih =>
    rw [List.dropWhile_cons]
    split
    · exact Nat.le_succ_of_le ih
    · exact Nat.le_refl _

/-! ## Phrases -/

/-- Reads the words of a phrase: quoted words and atoms with dots, apart from white space and
comments. -/
def phrase (s : List Char) : List (List Char) × List Char :=
  match s with
  | [] => ([], [])
  | c :: rest =>
    if isSpace c || isLineBreak c then phrase rest
    else if c = '"' then
      have := length_delimited_le '"' rest
      let (words, left) := phrase (delimited '"' rest).2
      ((delimited '"' rest).1 :: words, left)
    else if c = '(' then
      have := length_afterComment_le 1 rest
      phrase (afterComment 1 rest)
    else if endsWord c then ([], c :: rest)
    else
      have := length_dropWhile_le (fun d ↦ !endsWord d) rest
      let (words, left) := phrase (rest.dropWhile fun d ↦ !endsWord d)
      ((c :: rest.takeWhile fun d ↦ !endsWord d) :: words, left)
termination_by s.length
decreasing_by all_goals simp only [List.length_cons]; omega

/-! ## Local parts and domains -/

/-- A quoted word in its written form: quotes and backslashes escaped, between quotes. -/
def requote (s : List Char) : List Char :=
  '"' :: (s.flatMap (fun c ↦ if c = '"' || c = '\\' then ['\\', c] else [c]) ++ ['"'])

/-- Drops the part read last if it is white space throughout. -/
def dropBlank : List (List Char) → List (List Char)
  | [] => []
  | part :: parts => if part.all isBlank then parts else part :: parts

/-- Adds white space that was passed over, if there was any. -/
def keepSpace (space : List Char) (parts : List (List Char)) : List (List Char) :=
  if space.isEmpty then parts else space :: parts

/-- Reads the local part of an address up to a character that ends it. The parts read so far are
given, and yielded, in reverse order. White space counts between words, but not next to a dot and
not at the end. -/
def localPart (parts : List (List Char)) (s : List Char) : List (List Char) × List Char :=
  match s with
  | [] => (parts, [])
  | c :: rest =>
    if c = '.' then
      have := length_gap_le 0 rest
      localPart (['.'] :: dropBlank parts) (gap 0 rest).2
    else if c = '"' then
      have := length_delimited_le '"' rest
      have := length_gap_le 0 (delimited '"' rest).2
      localPart
        (keepSpace (gap 0 (delimited '"' rest).2).1 (requote (delimited '"' rest).1 :: parts))
        (gap 0 (delimited '"' rest).2).2
    else if endsAtom c then (dropBlank parts, c :: rest)
    else
      have := length_dropWhile_le (fun d ↦ !endsAtom d) rest
      have := length_gap_le 0 (rest.dropWhile fun d ↦ !endsAtom d)
      localPart
        (keepSpace (gap 0 (rest.dropWhile fun d ↦ !endsAtom d)).1
          ((c :: rest.takeWhile fun d ↦ !endsAtom d) :: parts))
        (gap 0 (rest.dropWhile fun d ↦ !endsAtom d)).2
termination_by s.length
decreasing_by all_goals simp only [List.length_cons]; omega

/-- Reads a domain: atoms, dots and bracketed literals, apart from blanks, tabs and comments. A
second at sign makes the whole domain void. -/
def domain (s : List Char) : Option (List Char) × List Char :=
  match s with
  | [] => (some [], [])
  | c :: rest =>
    if isSpace c then domain rest
    else if c = '(' then
      have := length_afterComment_le 1 rest
      domain (afterComment 1 rest)
    else if c = '[' then
      have := length_delimited_le ']' rest
      let (text, left) := domain (delimited ']' rest).2
      (text.map fun t ↦ '[' :: ((delimited ']' rest).1 ++ ']' :: t), left)
    else if c = '.' then
      let (text, left) := domain rest
      (text.map ('.' :: ·), left)
    else if c = '@' then (none, c :: rest)
    else if endsAtom c then (some [], c :: rest)
    else
      have := length_dropWhile_le (fun d ↦ !endsAtom d) rest
      let (text, left) := domain (rest.dropWhile fun d ↦ !endsAtom d)
      (text.map fun t ↦ c :: (rest.takeWhile (fun d ↦ !endsAtom d) ++ t), left)
termination_by s.length
decreasing_by all_goals simp only [List.length_cons]; omega

/-- Reads a local part and, behind an at sign, a domain. Without a domain behind the at sign the
address is empty. -/
def addrSpec (s : List Char) : List Char × List Char :=
  let (parts, left) := localPart [] (gap 0 s).2
  let text := parts.reverse.flatten
  match left with
  | '@' :: rest =>
    let (name, left) := domain (gap 0 rest).2
    match name.getD [] with
    | [] => ([], left)
    | d :: ds => (text ++ '@' :: d :: ds, left)
  | _ => (text, left)

theorem length_localPart_le (parts : List (List Char)) (s : List Char) :
    (localPart parts s).2.length ≤ s.length := by
  fun_induction localPart parts s <;> simp only [List.length_cons, List.length_nil] at * <;> omega

/-- A local part takes in the first character, unless that character ends it. -/
theorem length_localPart_lt (parts : List (List Char)) {c : Char} (rest : List Char)
    (h : c = '.' ∨ c = '"' ∨ endsAtom c = false) :
    (localPart parts (c :: rest)).2.length < (c :: rest).length := by
  rw [localPart]
  simp only [List.length_cons]
  split
  · exact Nat.lt_succ_of_le (Nat.le_trans (length_localPart_le _ _) (length_gap_le 0 rest))
  · split
    · exact Nat.lt_succ_of_le (Nat.le_trans (length_localPart_le _ _)
        (Nat.le_trans (length_gap_le 0 _) (length_delimited_le _ _)))
    · split
      · simp_all
      · exact Nat.lt_succ_of_le (Nat.le_trans (length_localPart_le _ _)
          (Nat.le_trans (length_gap_le 0 _) (length_dropWhile_le _ _)))

theorem length_domain_le (s : List Char) : (domain s).2.length ≤ s.length := by
  fun_induction domain s <;> simp_all <;> omega

/-- What follows the local part bounds what is left of an address, strictly so behind an at sign. -/
theorem length_addrSpec_localPart (s : List Char) :
    (addrSpec s).2.length ≤ (localPart [] (gap 0 s).2).2.length ∧
      ((localPart [] (gap 0 s).2).2.head? = some '@' →
        (addrSpec s).2.length < (localPart [] (gap 0 s).2).2.length) := by
  unfold addrSpec
  generalize localPart [] (gap 0 s).2 = r
  obtain ⟨parts, left⟩ := r
  dsimp only
  split
  · next rest =>
    have h₁ := length_gap_le 0 rest
    have h₂ := length_domain_le (gap 0 rest).2
    simp only [List.length_cons]
    split <;> dsimp only <;> omega
  · next h =>
    dsimp only
    refine ⟨Nat.le_refl _, fun h' ↦ ?_⟩
    cases left with
    | nil => simp at h'
    | cons c rest =>
      simp only [List.head?_cons, Option.some.injEq] at h'
      exact absurd (congrArg (· :: rest) h') (h rest)

theorem length_addrSpec_le (s : List Char) : (addrSpec s).2.length ≤ s.length :=
  Nat.le_trans (length_addrSpec_localPart s).1
    (Nat.le_trans (length_localPart_le _ _) (length_gap_le 0 s))

/-! ## Routes -/

/-- Reads what stands between angle brackets, from behind the opening one: routes are passed over,
the first address is taken, and one character behind it is passed over, whatever it is. `route`
says that a domain of a route comes next. -/
def angleAddr (route : Bool) (s : List Char) : List Char × List Char :=
  match s with
  | [] => ([], [])
  | c :: rest =>
    if route then
      have := length_domain_le (c :: rest)
      have := length_gap_le 0 (domain (c :: rest)).2
      angleAddr false (gap 0 (domain (c :: rest)).2).2
    else if c = '>' then ([], rest)
    else if c = '@' then
      have := length_gap_le 0 rest
      angleAddr true (gap 0 rest).2
    else if c = ':' then
      have := length_gap_le 0 rest
      angleAddr false (gap 0 rest).2
    else ((addrSpec (c :: rest)).1, (addrSpec (c :: rest)).2.drop 1)
termination_by 2 * s.length + route.toNat
decreasing_by all_goals simp_all <;> omega

theorem length_angleAddr_le (route : Bool) (s : List Char) :
    (angleAddr route s).2.length ≤ s.length := by
  fun_induction angleAddr route s with
  | case1 => simp
  | case2 => omega
  | case3 => simp
  | case4 => simp only [List.length_cons]; omega
  | case5 => simp only [List.length_cons]; omega
  | case6 =>
    refine Nat.le_trans ?_ (length_addrSpec_le _)
    simp only [List.length_drop]; omega

end MailDispatch.Address
